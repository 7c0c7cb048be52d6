import Mathlib.Data.List.Forall2
import Variants.Proofs.Registry.Building
import Variants.Proofs.Template.Rendering
import Variants.Proofs.Text.Lowercase
import Variants.Selection.Minimal

/-!
Which definitions make a registry, and what the registry then has of them. Only definitions with choices
count, and of a repeated choice only what is declared first.
-/

namespace Variants

/-- A choice has what its declaration says of it. -/
structure Choice.Represents (choice : Choice) (declared : ChoiceDefinition) : Prop where
  name : choice.name = declared.name
  description : choice.description = declared.description.orElse (.text declared.name)
  condition : choice.condition = declared.condition
  aliases : choice.aliases =
    (if declared.aliases = [] then [declared.name] else declared.aliases).map lowercase
  aliased : choice.aliases ≠ []
  small : ∀ spelling ∈ choice.aliases, lowercase spelling = spelling

theorem Choice.represents_ofDefinition (declared : ChoiceDefinition) :
    (ofDefinition declared).Represents declared := by
  have aliases : (ofDefinition declared).aliases =
      (if declared.aliases = [] then [declared.name] else declared.aliases).map lowercase := by
    rw [ofDefinition]
    cases declared.aliases <;> rfl
  refine ⟨rfl, rfl, rfl, aliases, ?_, ?_⟩
  · rw [aliases, ne_eq, List.map_eq_nil_iff]
    split
    · exact List.cons_ne_nil _ _
    · assumption
  · intro spelling member
    rw [aliases] at member
    rcases List.mem_map.mp member with ⟨written, _, rfl⟩
    exact lowercase_lowercase written

/-- A pivot has the choices that its definition declares, each as it is declared first, and all of them have
a condition if one has. -/
structure Pivot.Represents (pivot : Pivot) (definition : PivotDefinition) : Prop where
  name : pivot.name = definition.name
  key : pivot.key = definition.key
  description : pivot.description = definition.description.orElse (.text definition.name)
  choiceNames : pivot.choiceNames = (definition.choices.map (·.name)).eraseDups
  nonempty : pivot.choiceNames ≠ []
  distinct : pivot.choiceNames.Nodup
  choices : ∀ choice ∈ pivot.choices, ∃ declared,
    definition.choices.find? (·.name == choice.name) = some declared ∧ choice.Represents declared
  conditions : pivot.isBuiltIn → ∀ choice ∈ pivot.choices, choice.condition.isSome

namespace Pivot

theorem choices_ofDefinition (definition : PivotDefinition) :
    (ofDefinition definition).choices = (firstDeclared definition.choices).map Choice.ofDefinition :=
  Choice.ofDefinitions_eq_map definition.choices

theorem choiceNames_ofDefinition (definition : PivotDefinition) :
    (ofDefinition definition).choiceNames = (definition.choices.map (·.name)).eraseDups := by
  rw [← names_firstDeclared, choiceNames, choices_ofDefinition, List.map_map]
  rfl

theorem represents_ofDefinition {definition : PivotDefinition} (sound : (ofDefinition definition).Sound) :
    (ofDefinition definition).Represents definition where
  name := rfl
  key := rfl
  description := rfl
  choiceNames := choiceNames_ofDefinition definition
  nonempty := mt List.map_eq_nil_iff.mp sound.nonempty
  distinct := (ofDefinition definition).names_distinct
  choices := by
    intro choice member
    rw [choices_ofDefinition] at member
    rcases List.mem_map.mp member with ⟨declared, isFirst, rfl⟩
    exact ⟨declared, find?_of_mem_firstDeclared isFirst, Choice.represents_ofDefinition declared⟩
  conditions := sound.isSome_condition

end Pivot

/-- Some, but not all of the choices that count have a condition. -/
structure PivotDefinition.PartlyConditioned (definition : PivotDefinition) : Prop where
  conditioned : ∃ choice ∈ firstDeclared definition.choices, choice.condition.isSome
  unconditioned : ∃ choice ∈ firstDeclared definition.choices, choice.condition = none

namespace Pivot

theorem isBuiltIn_ofDefinition_iff {definition : PivotDefinition} :
    (ofDefinition definition).isBuiltIn ↔
      ∃ choice ∈ firstDeclared definition.choices, choice.condition.isSome := by
  rw [isBuiltIn, choices_ofDefinition, List.any_map, List.any_eq_true]
  rfl

theorem withoutCondition_ofDefinition_eq_nil_iff {definition : PivotDefinition} :
    (ofDefinition definition).withoutCondition = [] ↔
      ¬ ∃ choice ∈ firstDeclared definition.choices, choice.condition = none := by
  rw [withoutCondition, List.map_eq_nil_iff, List.filter_eq_nil_iff, choices_ofDefinition,
    List.forall_mem_map]
  simp [Choice.ofDefinition]

theorem partlyConditioned_iff {definition : PivotDefinition} :
    definition.PartlyConditioned ↔
      ¬ ((ofDefinition definition).isBuiltIn → (ofDefinition definition).withoutCondition = []) := by
  rw [isBuiltIn_ofDefinition_iff, withoutCondition_ofDefinition_eq_nil_iff, Classical.not_imp, not_not]
  exact ⟨fun partly => ⟨partly.conditioned, partly.unconditioned⟩, fun both => ⟨both.1, both.2⟩⟩

end Pivot

namespace Registry

theorem names_of_addDefinition {registry next : Registry} {definition : PivotDefinition}
    (inhabited : definition.choices ≠ []) (accepted : registry.addDefinition definition = .ok next) :
    next.names = registry.names ++ [definition.name] := by
  rw [names, pivots_of_addDefinition inhabited accepted, List.map_append]
  rfl

theorem exists_addDefinition_eq_ok_iff {registry : Registry} {definition : PivotDefinition}
    (inhabited : definition.choices ≠ []) :
    (∃ next, registry.addDefinition definition = .ok next) ↔
      definition.name ∉ registry.names ∧ ¬ definition.PartlyConditioned := by
  rw [addDefinition, dif_neg (mt Pivot.choices_ofDefinition_eq_nil_iff.mp inhabited), add,
    Pivot.partlyConditioned_iff, not_not]
  by_cases taken : definition.name ∈ registry.names
  · have refused : (Pivot.ofDefinition definition).name ∈ registry.pivots.map (·.name) := taken
    simp [refused, taken]
  · have free : (Pivot.ofDefinition definition).name ∉ registry.pivots.map (·.name) := taken
    rw [dif_neg free]
    by_cases conditions : (Pivot.ofDefinition definition).isBuiltIn →
        (Pivot.ofDefinition definition).withoutCondition = []
    · rw [dif_pos conditions]
      exact iff_of_true ⟨_, rfl⟩ ⟨taken, conditions⟩
    · rw [dif_neg conditions]
      apply iff_of_false
      · rintro ⟨next, accepted⟩
        contradiction
      · exact fun both => conditions both.2

theorem exists_foldlM_eq_ok_iff {registry : Registry} {definitions : List PivotDefinition}
    (inhabited : ∀ definition ∈ definitions, definition.choices ≠ []) :
    (∃ result, definitions.foldlM addDefinition registry = .ok result) ↔
      (registry.names ++ definitions.map (·.name)).Nodup ∧
        ∀ definition ∈ definitions, ¬ definition.PartlyConditioned := by
  induction definitions generalizing registry with
  | nil =>
      rw [List.map_nil, List.append_nil]
      exact iff_of_true ⟨registry, rfl⟩ ⟨registry.names_distinct, by simp⟩
  | cons definition rest ih =>
      rcases List.forall_mem_cons.mp inhabited with ⟨here, others⟩
      have split : registry.names ++ (definition :: rest).map (·.name) =
          registry.names ++ [definition.name] ++ rest.map (·.name) := by simp
      rw [List.foldlM_cons, split]
      constructor
      · rintro ⟨result, accepted⟩
        rcases Outcome.bind_eq_ok_iff.mp accepted with ⟨next, added, later⟩
        have taken := (exists_addDefinition_eq_ok_iff here).mp ⟨next, added⟩
        have remaining := (ih others).mp ⟨result, later⟩
        rw [names_of_addDefinition here added] at remaining
        exact ⟨remaining.1, List.forall_mem_cons.mpr ⟨taken.2, remaining.2⟩⟩
      · rintro ⟨distinct, complete⟩
        rcases List.forall_mem_cons.mp complete with ⟨whole, othersWhole⟩
        have free : definition.name ∉ registry.names := by
          intro taken
          have apart := (List.nodup_append.mp (List.nodup_append.mp distinct).1).2.2
          exact apart _ taken definition.name (List.mem_singleton.mpr rfl) rfl
        rcases (exists_addDefinition_eq_ok_iff here).mpr ⟨free, whole⟩ with ⟨next, added⟩
        rw [← names_of_addDefinition here added] at distinct
        rcases (ih others).mpr ⟨distinct, othersWhole⟩ with ⟨result, later⟩
        exact ⟨result, Outcome.bind_eq_ok_iff.mpr ⟨next, added, later⟩⟩

theorem exists_build_eq_ok_iff (definitions : List PivotDefinition) :
    (∃ registry, build definitions = .ok registry) ↔
      ((inhabited definitions).map (·.name)).Nodup ∧
        ∀ definition ∈ inhabited definitions, ¬ definition.PartlyConditioned := by
  rw [← build_inhabited]
  apply exists_foldlM_eq_ok_iff
  intro definition member
  simpa using (List.mem_filter.mp member).2

theorem represents_of_build {definitions : List PivotDefinition} {registry : Registry}
    (accepted : build definitions = .ok registry) :
    List.Forall₂ Pivot.Represents registry.pivots (inhabited definitions) := by
  have pivots := pivots_of_build accepted
  rw [pivots, List.forall₂_map_left_iff, List.forall₂_same]
  intro definition member
  apply Pivot.represents_ofDefinition
  apply registry.sound
  rw [pivots]
  exact List.mem_map_of_mem member

theorem pos_of_mem_sizes {registry : Registry} {table : Combinations} {sizes : List Nat}
    (counted : table.sizes registry = .ok sizes) : ∀ size ∈ sizes, 0 < size := by
  have each (pivot : String) (size : Nat)
      (found : (registry.choices pivot).map List.length = .ok size) : 0 < size ↔ True := by
    rcases Outcome.map_eq_ok_iff.mp found with ⟨names, listed, rfl⟩
    by_cases known : pivot ∈ registry.names
    · rw [choices_eq_ok known] at listed
      rw [← Except.ok.inj listed]
      exact iff_true_intro (domain_length_pos known)
    · rw [choices_eq_error known] at listed
      contradiction
  exact (Outcome.forall_mem_mapM_iff each counted).mpr fun _ _ => trivial

theorem exists_buildCondition {registry : Registry} {pivot : Pivot} (present : pivot ∈ registry.pivots)
    {choice : String} (member : choice ∈ pivot.choiceNames) (scope : String) :
    ∃ text, (Template.buildCondition : Template).atom.text scope choice pivot = .ok text ∧
      (pivot.isBuiltIn → (pivot.find? choice).bind (·.condition) = some text) := by
  refine ⟨pivot.conditionText choice, rfl, ?_⟩
  intro builtIn
  rcases exists_condition_of_isBuiltIn present builtIn member with ⟨own, stated⟩
  rw [Pivot.conditionText, if_pos builtIn, stated, Option.getD_some]

/-- Definitions are refused iff two of those with choices share a name or one of them has some choices with a
condition and some without. The pivots of a registry are the definitions with choices, in order; none of them
is without choices, and each choice is written as a build condition. -/
theorem build_validates (definitions : List PivotDefinition) :
    ((∃ error, build definitions = .error error) ↔
        ¬ ((inhabited definitions).map (·.name)).Nodup ∨
          ∃ definition ∈ inhabited definitions, definition.PartlyConditioned) ∧
      ∀ registry, build definitions = .ok registry →
        List.Forall₂ Pivot.Represents registry.pivots (inhabited definitions) ∧
          (∀ (table : Combinations) sizes, table.sizes registry = .ok sizes → ∀ size ∈ sizes, 0 < size) ∧
          ∀ pivot ∈ registry.pivots, ∀ choice ∈ pivot.choiceNames, ∀ scope,
            ∃ text, (Template.buildCondition : Template).atom.text scope choice pivot = .ok text ∧
              (pivot.isBuiltIn → (pivot.find? choice).bind (·.condition) = some text) := by
  constructor
  · have refused : (∃ error, build definitions = .error error) ↔
        ¬ ∃ registry, build definitions = .ok registry := by
      cases build definitions <;> simp
    rw [refused, exists_build_eq_ok_iff, Classical.not_and_iff_not_or_not]
    simp only [not_forall, not_not, exists_prop]
  · intro registry accepted
    refine ⟨represents_of_build accepted, fun _ _ => pos_of_mem_sizes, ?_⟩
    intro pivot present choice member scope
    exact exists_buildCondition present member scope

end Registry

namespace Example

def redundant : List PivotDefinition :=
  [{ platform with choices := platform.choices ++ [{ name := "Win32" }] }, { name := "Platform" }, linkage]

def halfConditioned : PivotDefinition :=
  { platform with choices := { name := "Win32" } :: platform.choices }

end Example

namespace Registry

theorem build_validates_of_example :
    (∃ registry, build Example.redundant = .ok registry ∧
      List.Forall₂ Pivot.Represents registry.pivots (inhabited Example.redundant) ∧
      (Combinations.ofChoices "Linkage" ["static"]).sizes registry = .ok [4] ∧ (∀ size ∈ [4], 0 < size) ∧
      ∃ pivot ∈ registry.pivots, "Win32" ∈ pivot.choiceNames ∧ pivot.isBuiltIn ∧
        ∃ text, (Template.buildCondition : Template).atom.text "zlib" "Win32" pivot = .ok text ∧
          (pivot.isBuiltIn → (pivot.find? "Win32").bind (·.condition) = some text)) ∧
    Example.halfConditioned.PartlyConditioned ∧
      ∃ error, build [Example.linkage, Example.halfConditioned] = .error error := by
  have built : (build Example.redundant).toOption.any (fun registry =>
      ((Combinations.ofChoices "Linkage" ["static"]).sizes registry).toOption == some [4] &&
        registry.pivots.any fun pivot => pivot.choiceNames.contains "Win32" && pivot.isBuiltIn) = true := by
    decide +kernel
  rcases (Option.any_eq_true _ _).mp built with ⟨registry, found, checked⟩
  rcases (Bool.and_eq_true _ _).mp checked with ⟨counted, listed⟩
  rcases List.any_eq_true.mp listed with ⟨pivot, present, isBuiltIn⟩
  rcases (Bool.and_eq_true _ _).mp isBuiltIn with ⟨declared, builtIn⟩
  have accepted := Outcome.toOption_eq_some_iff.mp found
  have sizes := Outcome.toOption_eq_some_iff.mp (eq_of_beq counted)
  have member : "Win32" ∈ pivot.choiceNames := List.contains_iff_mem.mp declared
  rcases (build_validates Example.redundant).2 registry accepted with ⟨represents, positive, written⟩
  have half : (∃ choice ∈ firstDeclared Example.halfConditioned.choices, choice.condition.isSome) ∧
      ∃ choice ∈ firstDeclared Example.halfConditioned.choices, choice.condition = none := by
    decide +kernel
  have partly : Example.halfConditioned.PartlyConditioned := ⟨half.1, half.2⟩
  refine ⟨⟨registry, accepted, represents, sizes, positive _ _ sizes, pivot, present, member, builtIn,
    written pivot present "Win32" member "zlib"⟩, partly, ?_⟩
  apply (build_validates [Example.linkage, Example.halfConditioned]).1.mpr
  exact .inr ⟨Example.halfConditioned, by simp [inhabited, Example.halfConditioned, Example.linkage], partly⟩

end Registry

end Variants
