import Variants.Example
import Variants.Proofs.Condition.Meaning
import Variants.Proofs.Selection.Minimal
import Variants.Proofs.Traced
import Variants.Selection.Evaluation

/-!
Evaluation is sound and canonical: the selection of a condition admits the variants of which the
condition is true, and conditions have the same selection iff they are true of the same variants.
-/

namespace Variants

open Registry (Variant)

variable {registry : Registry}

namespace Combinations

theorem within_ofChoices {pivot : String} {choices : List String} (known : pivot ∈ registry.names)
    (declared : ∀ choice ∈ choices, choice ∈ registry.domain pivot) :
    (ofChoices pivot choices).Within registry := by
  apply within_iff.mpr
  constructor
  · intro other member
    rwa [List.mem_singleton.mp member]
  · intro chosen contained other member
    rw [List.mem_singleton.mp member]
    exact declared _ (contains_ofChoices.mp contained)

theorem union_computes {left right : Combinations} (leftWithin : left.Within registry)
    (rightWithin : right.Within registry) :
    Selection.Computes registry
      (do (← left.union registry right).simplify registry) fun variant =>
        left.Contains variant.chosen ∨ right.Contains variant.chosen := by
  rcases exists_union_eq_ok (fun pivot member _ => leftWithin.known pivot member)
    (fun pivot member _ => rightWithin.known pivot member) with ⟨table, joined, pivots, contains⟩
  have known : ∀ pivot ∈ left.pivots ++ right.pivots, pivot ∈ registry.names :=
    List.forall_mem_append.mpr ⟨leftWithin.known, rightWithin.known⟩
  have within : table.Within registry := by
    apply within_iff.mpr
    rw [pivots]
    simp only [mem_ascending]
    refine ⟨known, ?_⟩
    intro chosen contained
    rcases (contains chosen).mp contained with ⟨inside, added⟩ | ⟨inside, added⟩
    · exact leftWithin.declared_of_missing inside added
    · exact rightWithin.declared_of_missing inside added
  rw [joined]
  apply (simplify_computes within).congr
  intro variant
  have chooses : ∀ pivot ∈ left.pivots ++ right.pivots,
      variant.chosen pivot ∈ registry.domain pivot := by
    intro pivot member
    exact variant.chosen_mem_domain (known pivot member)
  rw [contains variant.chosen]
  apply or_congr
  · apply and_iff_left
    intro pivot member
    exact chooses pivot (mem_missingPivots.mp member).1
  · apply and_iff_left
    intro pivot member
    exact chooses pivot (mem_missingPivots.mp member).1

end Combinations

namespace Selection

theorem ofChoice_computes {pivot name : String} (declared : registry.Declares pivot name)
    (inverted : Bool) :
    Computes registry (ofChoice registry pivot name inverted) fun variant =>
      (Condition.choice pivot name inverted).holds variant.choice? = true := by
  have member := Registry.mem_domain.mpr declared
  have known := Registry.mem_names_of_mem_domain member
  cases inverted with
  | false =>
      have within : (Combinations.ofChoices pivot [name]).Within registry :=
        Combinations.within_ofChoices known fun choice same => by rwa [List.mem_singleton.mp same]
      apply (Combinations.simplify_computes within).congr
      intro variant
      rw [Combinations.contains_ofChoices]
      simp [Condition.holds, variant.choice?_eq known]
  | true =>
      have within : (Combinations.ofChoices pivot
          ((registry.domain pivot).filter (· != name))).Within registry :=
        Combinations.within_ofChoices known fun choice kept => (List.mem_filter.mp kept).1
      rw [ofChoice, if_pos rfl, Registry.choices_eq_ok known]
      apply (Combinations.simplify_computes within).congr
      intro variant
      rw [Combinations.contains_ofChoices]
      simp [Condition.holds, variant.choice?_eq known, variant.chosen_mem_domain known]

theorem both_computes {left right : Selection} (leftReduced : left.Reduced registry)
    (rightReduced : right.Reduced registry) :
    Computes registry (both registry left right) fun variant =>
      left.Accepts variant.chosen ∧ right.Accepts variant.chosen := by
  rw [both]
  split
  · rename_i absorbed
    refine ⟨left, rfl, leftReduced, ?_⟩
    intro variant
    rcases absorbed with rfl | rfl <;> simp
  · split
    · rename_i absorbed
      refine ⟨right, rfl, rightReduced, ?_⟩
      intro variant
      rcases absorbed with rfl | rfl <;> simp
    · match left, right with
      | constant false, _ => simp_all
      | constant true, _ => simp_all
      | combinations _, constant false => simp_all
      | combinations _, constant true => simp_all
      | combinations one, combinations other =>
          have within := leftReduced.within.intersect rightReduced.within
          apply (Combinations.simplify_computes within).congr
          intro variant
          rw [Combinations.contains_intersect]
          rfl

theorem either_computes {left right : Selection} (leftReduced : left.Reduced registry)
    (rightReduced : right.Reduced registry) :
    Computes registry (either registry left right) fun variant =>
      left.Accepts variant.chosen ∨ right.Accepts variant.chosen := by
  rw [either]
  split
  · rename_i absorbed
    refine ⟨left, rfl, leftReduced, ?_⟩
    intro variant
    rcases absorbed with rfl | rfl <;> simp
  · split
    · rename_i absorbed
      refine ⟨right, rfl, rightReduced, ?_⟩
      intro variant
      rcases absorbed with rfl | rfl <;> simp
    · match left, right with
      | constant false, _ => simp_all
      | constant true, _ => simp_all
      | combinations _, constant false => simp_all
      | combinations _, constant true => simp_all
      | combinations one, combinations other =>
          exact Combinations.union_computes leftReduced.within rightReduced.within

end Selection

namespace Condition

theorem evaluate_computes {condition : Condition} (declared : condition.Declared registry) :
    Selection.Computes registry (condition.evaluate registry).result fun variant =>
      condition.holds variant.choice? = true := by
  induction condition with
  | always => exact ⟨_, rfl, trivial, fun variant => by simp [holds]⟩
  | never => exact ⟨_, rfl, trivial, fun variant => by simp [holds]⟩
  | choice pivot name inverted => exact Selection.ofChoice_computes declared inverted
  | and left right ihLeft ihRight =>
      rcases ihLeft declared.1 with ⟨first, firstResult, firstReduced, firstMeans⟩
      rcases ihRight declared.2 with ⟨second, secondResult, secondReduced, secondMeans⟩
      have result : ((and left right).evaluate registry).result =
          Selection.both registry first second := by
        simp [evaluate, firstResult, secondResult, Except.bind]
      rw [result]
      apply (Selection.both_computes firstReduced secondReduced).congr
      intro variant
      rw [firstMeans variant, secondMeans variant, holds, Bool.and_eq_true]
  | or left right ihLeft ihRight =>
      rcases ihLeft declared.1 with ⟨first, firstResult, firstReduced, firstMeans⟩
      rcases ihRight declared.2 with ⟨second, secondResult, secondReduced, secondMeans⟩
      have result : ((or left right).evaluate registry).result =
          Selection.either registry first second := by
        simp [evaluate, firstResult, secondResult, Except.bind]
      rw [result]
      apply (Selection.either_computes firstReduced secondReduced).congr
      intro variant
      rw [firstMeans variant, secondMeans variant, holds, Bool.or_eq_true]

theorem selection_eq_iff_equivalent {first second : Condition} {one other : Selection}
    (firstDeclared : first.Declared registry) (secondDeclared : second.Declared registry)
    (firstResult : (first.evaluate registry).result = .ok one)
    (secondResult : (second.evaluate registry).result = .ok other) :
    one = other ↔ first.Equivalent registry second := by
  rcases evaluate_computes firstDeclared with ⟨_, gives, firstReduced, firstMeans⟩
  rw [firstResult, Except.ok.injEq] at gives
  subst gives
  rcases evaluate_computes secondDeclared with ⟨_, gives, secondReduced, secondMeans⟩
  rw [secondResult, Except.ok.injEq] at gives
  subst gives
  rw [firstReduced.eq_iff secondReduced]
  apply forall_congr'
  intro variant
  rw [firstMeans variant, secondMeans variant, Bool.coe_iff_coe]

/-- Evaluation succeeds, and its selection admits the variants of which the condition is true. -/
theorem evaluate_sound (registry : Registry) (condition : Condition)
    (declared : condition.Declared registry) :
    ∃ selection, (condition.evaluate registry).result = .ok selection ∧
      ∀ variant : registry.Variant,
        selection.admits variant.choice? = .ok (condition.holds variant.choice?) := by
  rcases evaluate_computes declared with ⟨selection, result, reduced, means⟩
  refine ⟨selection, result, ?_⟩
  intro variant
  rw [Selection.admits_eq_ok reduced.known variant]
  congr 1
  rw [Bool.eq_iff_iff, decide_eq_true_iff]
  exact means variant

theorem evaluate_sound_of_example :
    let condition := and (choice "Platform" "Win32" false)
      (or (choice "Configuration" "Debug" true) (choice "Linkage" "static" false))
    condition.Declared Example.registry ∧
      ∃ selection, (condition.evaluate Example.registry).result = .ok selection ∧
        ∀ variant : Example.registry.Variant,
          selection.admits variant.choice? = .ok (condition.holds variant.choice?) :=
  ⟨by decide, evaluate_sound Example.registry _ (by decide)⟩

/-- The selection of a condition is a canonical form of what the condition means. -/
theorem evaluate_eq_iff_equivalent (registry : Registry) (first second : Condition)
    (firstDeclared : first.Declared registry) (secondDeclared : second.Declared registry) :
    ∃ one other, (first.evaluate registry).result = .ok one ∧
      (second.evaluate registry).result = .ok other ∧
      (one = other ↔ first.Equivalent registry second) := by
  rcases evaluate_computes firstDeclared with ⟨one, firstResult, _⟩
  rcases evaluate_computes secondDeclared with ⟨other, secondResult, _⟩
  exact ⟨one, other, firstResult, secondResult,
    selection_eq_iff_equivalent firstDeclared secondDeclared firstResult secondResult⟩

theorem evaluate_eq_iff_equivalent_of_example :
    let first := or (choice "Configuration" "Debug" false) (choice "Configuration" "Release" false)
    let second := or (choice "Platform" "ARM" true) (choice "Platform" "ARM" false)
    first.Declared Example.registry ∧ second.Declared Example.registry ∧
      ∃ one other, (first.evaluate Example.registry).result = .ok one ∧
        (second.evaluate Example.registry).result = .ok other ∧
        (one = other ↔ first.Equivalent Example.registry second) :=
  ⟨by decide, by decide, evaluate_eq_iff_equivalent Example.registry _ _ (by decide) (by decide)⟩

end Condition

end Variants
