import Variants.Proofs.Condition.Reading
import Variants.Proofs.Evaluation

/-!
The opposite of a condition has the complement of its selection. Both are minimal, and a pivot that one
of them depends on the other depends on too, so no pivot is gained or lost on the way.
-/

namespace Variants

open Registry (Variant)

variable {registry : Registry}

namespace Combinations

theorem length_of_mem_filter_choicesProduct (table : Combinations) (registry : Registry) :
    ∀ row ∈ (choicesProduct (table.pivots.map registry.domain)).filter (· ∉ table.rows),
      row.length = table.pivots.length := by
  intro row member
  rw [length_of_mem_choicesProduct (List.mem_filter.mp member).1, List.length_map]

def complement (registry : Registry) (table : Combinations) : Combinations :=
  ofRows table.pivots ((choicesProduct (table.pivots.map registry.domain)).filter (· ∉ table.rows))
    table.pivots_ascending (table.length_of_mem_filter_choicesProduct registry)

theorem mem_rows_complement {table : Combinations} {row : Row} :
    row ∈ (table.complement registry).rows ↔
      row ∈ choicesProduct (table.pivots.map registry.domain) ∧ row ∉ table.rows := by
  rw [complement, ofRows, mem_ascending, List.mem_filter, decide_eq_true_iff]

theorem contains_complement {table : Combinations} {chosen : String → String} :
    (table.complement registry).Contains chosen ↔
      (∀ pivot ∈ table.pivots, chosen pivot ∈ registry.domain pivot) ∧ ¬ table.Contains chosen := by
  rw [Contains, mem_rows_complement, ← map_mem_choicesProduct, Contains]
  rfl

theorem contains_complement_variant {table : Combinations}
    (known : ∀ pivot ∈ table.pivots, pivot ∈ registry.names) (variant : registry.Variant) :
    (table.complement registry).Contains variant.chosen ↔ ¬ table.Contains variant.chosen := by
  rw [contains_complement]
  apply and_iff_right
  intro pivot relevant
  exact variant.chosen_mem_domain (known pivot relevant)

theorem within_complement {table : Combinations}
    (known : ∀ pivot ∈ table.pivots, pivot ∈ registry.names) :
    (table.complement registry).Within registry :=
  within_iff.mpr ⟨known, fun _ contained => (contains_complement.mp contained).1⟩

theorem Reduced.complement {table : Combinations} (reduced : table.Reduced registry) :
    (table.complement registry).Reduced registry := by
  have known := reduced.within.known
  have within := within_complement known
  refine ⟨within, ?_, reduced.proper, ?_⟩
  · obtain ⟨variant, lost⟩ := reduced.exists_not_contains
    exact List.ne_nil_of_mem ((contains_complement_variant known variant).mpr lost)
  · intro pivot relevant
    obtain ⟨variant, choice, declared, contained, lost⟩ := (reduced.mem_pivots_iff pivot).mp relevant
    -- The same two variants are told apart, from the one without to the one within the table.
    have back := variant.chosen_mem_domain (known pivot relevant)
    have restored : ((variant.set pivot choice declared).set pivot (variant.chosen pivot) back).chosen =
        variant.chosen := by
      rw [Variant.chosen_set, Variant.chosen_set, Function.update_idem, Function.update_eq_self]
    apply (not_ignores_iff within pivot).mpr
    refine ⟨variant.set pivot choice declared, variant.chosen pivot, back, ?_, ?_⟩
    · exact (contains_complement_variant known _).mpr lost
    · rw [restored, contains_complement_variant known]
      exact not_not_intro contained

end Combinations

namespace Selection

/-- The other constant, or all rows of declared choices over the same pivots that the selection does not
have. -/
def complement (registry : Registry) : Selection → Selection
  | constant holds => constant (!holds)
  | combinations table => combinations (table.complement registry)

theorem Reduced.complement {selection : Selection} (reduced : selection.Reduced registry) :
    (selection.complement registry).Reduced registry := by
  cases selection with
  | constant holds => trivial
  | combinations table => exact Combinations.Reduced.complement reduced

theorem accepts_complement {selection : Selection}
    (known : ∀ pivot ∈ selection.relevant, pivot ∈ registry.names) (variant : registry.Variant) :
    (selection.complement registry).Accepts variant.chosen ↔ ¬ selection.Accepts variant.chosen := by
  cases selection with
  | constant holds => simp [complement]
  | combinations table => exact Combinations.contains_complement_variant known variant

end Selection

namespace Condition

/-- Evaluating the opposite condition gives the complement of what the condition gives. -/
theorem evaluate_invert_eq_complement (registry : Registry) (condition : Condition)
    (declared : condition.Declared registry) :
    ∃ selection, (condition.evaluate registry).result = .ok selection ∧
      (condition.invert.evaluate registry).result = .ok (selection.complement registry) := by
  obtain ⟨selection, result, reduced, means⟩ := evaluate_computes declared
  obtain ⟨opposite, oppositeResult, oppositeReduced, oppositeMeans⟩ :=
    evaluate_computes (declared_invert declared)
  have same : opposite = selection.complement registry := by
    apply (oppositeReduced.eq_iff reduced.complement).mpr
    intro variant
    have opposed : condition.invert.holds variant.choice? = true ↔
        ¬ condition.holds variant.choice? = true := by
      rw [holds_invert, Bool.not_eq_true', Bool.not_eq_true]
    rw [oppositeMeans variant, Selection.accepts_complement reduced.known, means variant]
    exact opposed
  exact ⟨selection, result, same ▸ oppositeResult⟩

theorem evaluate_invert_eq_complement_of_example :
    let condition := and (choice "Platform" "Win32" false)
      (or (choice "Configuration" "Debug" true) (choice "Linkage" "static" false))
    condition.Declared Example.registry ∧
      ∃ selection, (condition.evaluate Example.registry).result = .ok selection ∧
        (condition.invert.evaluate Example.registry).result =
          .ok (selection.complement Example.registry) :=
  ⟨by decide, evaluate_invert_eq_complement Example.registry _ (by decide)⟩

end Condition

end Variants
