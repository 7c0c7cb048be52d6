import Variants.Proofs.Condition.Leaves

/-!
What the selection of a condition depends on: the pivots that the condition names, with the sets of their
choices. The order of declaration does not count, nor does any other pivot of the registry.
-/

namespace Variants

open Registry (Variant)

variable {first second : Registry}

namespace Registry

/-- Whether a pivot has the same choices in two registries, in whatever order. -/
def SameChoices (first second : Registry) (pivot : String) : Prop :=
  ∀ choice, first.Declares pivot choice ↔ second.Declares pivot choice

theorem sameChoices_of_perm {pivot : String}
    (rearranged : (first.domain pivot).Perm (second.domain pivot)) :
    first.SameChoices second pivot := by
  intro choice
  rw [← mem_domain, ← mem_domain]
  exact rearranged.mem_iff

theorem SameChoices.mem_domain_iff {pivot : String} (same : first.SameChoices second pivot)
    (choice : String) : choice ∈ first.domain pivot ↔ choice ∈ second.domain pivot := by
  rw [mem_domain, mem_domain]
  exact same choice

theorem SameChoices.mem_names {pivot : String} (same : first.SameChoices second pivot)
    (known : pivot ∈ first.names) : pivot ∈ second.names := by
  obtain ⟨choice, declared⟩ := List.exists_mem_of_ne_nil _ (domain_ne_nil known)
  exact mem_names_of_mem_domain ((same.mem_domain_iff choice).mp declared)

end Registry

namespace Combinations

theorem Within.of_sameChoices {table : Combinations} (within : table.Within first)
    (same : ∀ pivot ∈ table.pivots, first.SameChoices second pivot) : table.Within second := by
  obtain ⟨known, declared⟩ := within_iff.mp within
  apply within_iff.mpr
  constructor
  · intro pivot relevant
    exact (same pivot relevant).mem_names (known pivot relevant)
  · intro chosen contained pivot relevant
    exact ((same pivot relevant).mem_domain_iff _).mp (declared chosen contained pivot relevant)

theorem Reduced.of_sameChoices {table : Combinations} (reduced : table.Reduced first)
    (same : ∀ pivot ∈ table.pivots, first.SameChoices second pivot) : table.Reduced second where
  within := reduced.within.of_sameChoices same
  inhabited := reduced.inhabited
  proper := reduced.proper
  matters := by
    intro pivot relevant ignores
    apply reduced.matters pivot relevant
    intro chosen choice contained declared
    exact ignores chosen choice contained (((same pivot relevant).mem_domain_iff choice).mp declared)

end Combinations

namespace Selection

theorem Reduced.of_sameChoices {selection : Selection} (reduced : selection.Reduced first)
    (same : ∀ pivot ∈ selection.relevant, first.SameChoices second pivot) :
    selection.Reduced second := by
  cases selection with
  | constant holds => trivial
  | combinations table => exact Combinations.Reduced.of_sameChoices reduced same

theorem accepts_congr (selection : Selection) {chosen other : String → String}
    (agree : ∀ pivot ∈ selection.relevant, chosen pivot = other pivot) :
    selection.Accepts chosen ↔ selection.Accepts other := by
  cases selection with
  | constant holds => exact Iff.rfl
  | combinations table => exact table.contains_congr agree

end Selection

namespace Condition

def pivots (condition : Condition) : List String :=
  condition.leaves.map (·.1)

theorem holds_congr (condition : Condition) {variant other : String → Option String}
    (agree : ∀ pivot ∈ condition.pivots, variant pivot = other pivot) :
    condition.holds variant = condition.holds other := by
  induction condition with
  | always => rfl
  | never => rfl
  | choice pivot name inverted =>
      rw [holds, holds, agree pivot List.mem_cons_self]
  | and left right ihLeft ihRight =>
      rw [pivots, leaves, List.map_append, List.forall_mem_append] at agree
      rw [holds, holds, ihLeft agree.1, ihRight agree.2]
  | or left right ihLeft ihRight =>
      rw [pivots, leaves, List.map_append, List.forall_mem_append] at agree
      rw [holds, holds, ihLeft agree.1, ihRight agree.2]

theorem mem_names_of_mem_pivots {registry : Registry} {condition : Condition}
    (declared : condition.Declared registry) {pivot : String} (member : pivot ∈ condition.pivots) :
    pivot ∈ registry.names := by
  obtain ⟨⟨_, name⟩, isLeaf, rfl⟩ := List.mem_map.mp member
  exact Registry.mem_names_of_mem_domain
    (Registry.mem_domain.mpr (declares_of_mem_leaves declared isLeaf))

theorem holds_eq_of_chosen_eq {condition : Condition} (declared : condition.Declared first)
    (declaredToo : condition.Declared second) {one : first.Variant} {other : second.Variant}
    (agree : ∀ pivot ∈ condition.pivots, one.chosen pivot = other.chosen pivot) :
    condition.holds one.choice? = condition.holds other.choice? := by
  apply holds_congr
  intro pivot member
  rw [one.choice?_eq (mem_names_of_mem_pivots declared member),
    other.choice?_eq (mem_names_of_mem_pivots declaredToo member), agree pivot member]

theorem Declared.of_sameChoices {condition : Condition} (declared : condition.Declared first)
    (same : ∀ pivot ∈ condition.pivots, first.SameChoices second pivot) :
    condition.Declared second := by
  induction condition with
  | always => trivial
  | never => trivial
  | choice pivot name inverted => exact (same pivot List.mem_cons_self name).mp declared
  | and left right ihLeft ihRight =>
      rw [pivots, leaves, List.map_append, List.forall_mem_append] at same
      exact ⟨ihLeft declared.1 same.1, ihRight declared.2 same.2⟩
  | or left right ihLeft ihRight =>
      rw [pivots, leaves, List.map_append, List.forall_mem_append] at same
      exact ⟨ihLeft declared.1 same.1, ihRight declared.2 same.2⟩

theorem mem_pivots_of_mem_relevant {registry : Registry} {condition : Condition}
    (declared : condition.Declared registry) {selection : Selection}
    (reduced : selection.Reduced registry)
    (means : ∀ variant : registry.Variant,
      selection.Accepts variant.chosen ↔ condition.holds variant.choice? = true)
    {pivot : String} (relevant : pivot ∈ selection.relevant) : pivot ∈ condition.pivots := by
  cases selection with
  | constant holds => simp [Selection.relevant, Selection.toCombinations, Combinations.empty] at relevant
  | combinations table =>
      obtain ⟨variant, choice, isChoice, contained, lost⟩ :=
        (Combinations.Reduced.mem_pivots_iff reduced pivot).mp relevant
      by_contra absent
      -- The condition cannot tell apart what the selection tells apart.
      have same : condition.holds variant.choice? =
          condition.holds (variant.set pivot choice isChoice).choice? := by
        apply holds_eq_of_chosen_eq declared declared
        intro other member
        have differs : other ≠ pivot := fun equal => absent (equal ▸ member)
        rw [Variant.chosen_set, Function.update_of_ne differs]
      apply lost
      apply (means (variant.set pivot choice isChoice)).mpr
      rw [← same]
      exact (means variant).mp contained

/-- A condition has the same selection in registries that have the same choices for its pivots, and the
selection is over pivots of the condition. -/
theorem evaluate_eq_of_sameChoices (first second : Registry) (condition : Condition)
    (declared : condition.Declared first)
    (same : ∀ pivot ∈ condition.pivots, first.SameChoices second pivot) :
    ∃ selection, (condition.evaluate first).result = .ok selection ∧
      (condition.evaluate second).result = .ok selection ∧
      ∀ pivot ∈ selection.relevant, pivot ∈ condition.pivots := by
  have declaredToo := declared.of_sameChoices same
  obtain ⟨selection, result, reduced, means⟩ := evaluate_computes declared
  obtain ⟨other, otherResult, otherReduced, otherMeans⟩ := evaluate_computes declaredToo
  have within : ∀ pivot ∈ selection.relevant, pivot ∈ condition.pivots :=
    fun _ relevant => mem_pivots_of_mem_relevant declared reduced means relevant
  have reducedToo : selection.Reduced second :=
    reduced.of_sameChoices fun pivot relevant => same pivot (within pivot relevant)
  have equal : other = selection := by
    apply (otherReduced.eq_iff reducedToo).mpr
    intro variant
    obtain ⟨one, agree⟩ : ∃ one : first.Variant,
        ∀ pivot ∈ condition.pivots, one.chosen pivot = variant.chosen pivot := by
      apply Variant.exists_extension
      intro pivot member
      apply ((same pivot member).mem_domain_iff _).mpr
      exact variant.chosen_mem_domain (mem_names_of_mem_pivots declaredToo member)
    calc
      other.Accepts variant.chosen ↔ condition.holds variant.choice? = true := otherMeans variant
      _ ↔ condition.holds one.choice? = true := by
        rw [holds_eq_of_chosen_eq declared declaredToo agree]
      _ ↔ selection.Accepts one.chosen := (means one).symm
      _ ↔ selection.Accepts variant.chosen :=
        selection.accepts_congr fun pivot relevant => agree pivot (within pivot relevant)
  exact ⟨selection, result, equal ▸ otherResult, within⟩

end Condition

namespace Example

def rearranged : Registry :=
  let reversed (definition : PivotDefinition) := { definition with choices := definition.choices.reverse }
  let sanitizer : PivotDefinition :=
    { name := "Sanitizer", choices := [{ name := "none" }, { name := "address" }] }
  match Registry.build [reversed linkage, sanitizer, reversed configuration, reversed platform] with
  | .ok registry => registry
  | .error _ => .empty

end Example

namespace Condition

theorem evaluate_eq_of_sameChoices_of_example :
    let condition := Condition.and (.choice "Platform" "Win32" true)
      (.or (.choice "Configuration" "Debug" false) (.choice "Linkage" "static" true))
    condition.Declared Example.registry ∧
      (∀ pivot ∈ condition.pivots, Example.registry.SameChoices Example.rearranged pivot) ∧
      ∃ selection, (condition.evaluate Example.registry).result = .ok selection ∧
        (condition.evaluate Example.rearranged).result = .ok selection ∧
        ∀ pivot ∈ selection.relevant, pivot ∈ condition.pivots := by
  intro condition
  have declared : condition.Declared Example.registry := by
    refine ⟨?_, ?_, ?_⟩ <;> exact Registry.mem_domain.mp (by decide +kernel)
  have same : ∀ pivot ∈ condition.pivots, Example.registry.SameChoices Example.rearranged pivot := by
    have permuted : ∀ pivot ∈ condition.pivots,
        (Example.registry.domain pivot).Perm (Example.rearranged.domain pivot) := by decide +kernel
    exact fun pivot member => Registry.sameChoices_of_perm (permuted pivot member)
  exact ⟨declared, same, evaluate_eq_of_sameChoices _ _ condition declared same⟩

end Condition

end Variants
