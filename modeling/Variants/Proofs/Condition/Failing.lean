import Variants.Proofs.Condition.Leaves
import Variants.Proofs.Selection.Checked

/-!
How the evaluation of a condition fails. A leaf of an unknown pivot stops it, the first one from the left,
after all leaves up to that one have been reported. Nothing else does, whatever the choices are: unknown
choices are combinations like any other, and no check on the way can fail.
-/

namespace Variants

variable {registry : Registry}

namespace Selection

def Known (registry : Registry) (selection : Selection) : Prop :=
  ∀ pivot ∈ selection.relevant, pivot ∈ registry.names

theorem known_constant (holds : Bool) : (constant holds).Known registry :=
  fun _ member => absurd member List.not_mem_nil

theorem exists_simplify_known {table : Combinations} (known : ∀ pivot ∈ table.pivots, pivot ∈ registry.names) :
    ∃ selection, table.simplify registry = .ok selection ∧ selection.Known registry := by
  obtain ⟨selection, result, projects⟩ := Combinations.simplify_projects known
  exact ⟨selection, result, fun pivot member => known pivot (projects.inside pivot member)⟩

theorem exists_ofChoice_known {pivot : String} (known : pivot ∈ registry.names) (name : String)
    (inverted : Bool) :
    ∃ selection, ofChoice registry pivot name inverted = .ok selection ∧ selection.Known registry := by
  have simplified (chosen : List String) : ∃ selection,
      (Combinations.ofChoices pivot chosen).simplify registry = .ok selection ∧ selection.Known registry := by
    apply exists_simplify_known
    intro other member
    rwa [List.mem_singleton.mp member]
  cases inverted with
  | false => exact simplified [name]
  | true =>
      rw [ofChoice, if_pos rfl, Registry.choices_eq_ok known]
      exact simplified ((registry.domain pivot).filter (· != name))

theorem ofChoice_eq_error {pivot : String} (unknown : pivot ∉ registry.names) (name : String)
    (inverted : Bool) : ofChoice registry pivot name inverted = .error (.unknownPivot pivot) := by
  have refused := Registry.choices_eq_error unknown
  cases inverted with
  | false =>
      have sizes : (Combinations.ofChoices pivot [name]).sizes registry = .error (.unknownPivot pivot) := by
        rw [Combinations.sizes]
        exact Outcome.mapM_eq_error_iff.mpr
          ⟨[], pivot, [], rfl, by simp, Outcome.map_eq_error_iff.mpr refused⟩
      have inhabited : ¬ (Combinations.ofChoices pivot [name]).rows.isEmpty = true := by
        have single : [name] ∈ (Combinations.ofChoices pivot [name]).rows :=
          mem_ascending.mpr List.mem_cons_self
        intro empty
        rw [List.isEmpty_iff.mp empty] at single
        contradiction
      change (Combinations.ofChoices pivot [name]).simplify registry = _
      rw [Combinations.simplify, if_neg inhabited, sizes]
  | true =>
      rw [ofChoice, if_pos rfl, refused]
      rfl

theorem exists_both_known {left right : Selection} (leftKnown : left.Known registry)
    (rightKnown : right.Known registry) :
    ∃ selection, both registry left right = .ok selection ∧ selection.Known registry := by
  rw [both]
  split_ifs
  · exact ⟨left, rfl, leftKnown⟩
  · exact ⟨right, rfl, rightKnown⟩
  · apply exists_simplify_known
    intro pivot member
    rw [Combinations.pivots_intersect, mem_ascending] at member
    exact (List.mem_append.mp member).elim (leftKnown pivot) (rightKnown pivot)

theorem exists_either_known {left right : Selection} (leftKnown : left.Known registry)
    (rightKnown : right.Known registry) :
    ∃ selection, either registry left right = .ok selection ∧ selection.Known registry := by
  rw [either]
  split_ifs
  · exact ⟨left, rfl, leftKnown⟩
  · exact ⟨right, rfl, rightKnown⟩
  · have fromLeft : ∀ pivot ∈ left.toCombinations.pivots, pivot ∉ right.toCombinations.pivots →
        pivot ∈ registry.names := fun pivot member _ => leftKnown pivot member
    have fromRight : ∀ pivot ∈ right.toCombinations.pivots, pivot ∉ left.toCombinations.pivots →
        pivot ∈ registry.names := fun pivot member _ => rightKnown pivot member
    obtain ⟨table, joined, pivots, _⟩ := Combinations.exists_union_eq_ok fromLeft fromRight
    rw [joined]
    apply exists_simplify_known
    intro pivot member
    rw [pivots, mem_ascending] at member
    exact (List.mem_append.mp member).elim (leftKnown pivot) (rightKnown pivot)

end Selection

/-- How the evaluation of a condition with the given leaves ends. -/
inductive Ends (registry : Registry) : List Mark → Traced Error Selection → Prop
  | gives {leaves : List Mark} {selection : Selection} (known : ∀ leaf ∈ leaves, leaf.1 ∈ registry.names)
      (inside : selection.Known registry) : Ends registry leaves ⟨leaves, .ok selection⟩
  | stops {before after : List Mark} {pivot name : String}
      (known : ∀ leaf ∈ before, leaf.1 ∈ registry.names) (unknown : pivot ∉ registry.names) :
      Ends registry (before ++ (pivot, name) :: after)
        ⟨before ++ [(pivot, name)], .error (.unknownPivot pivot)⟩

theorem Ends.connect {first second : List Mark} {left right : Traced Error Selection}
    {combine : Selection → Selection → Except Error Selection} (leftEnds : Ends registry first left)
    (rightEnds : Ends registry second right)
    (combines : ∀ one other, one.Known registry → other.Known registry →
      ∃ selection, combine one other = .ok selection ∧ selection.Known registry) :
    Ends registry (first ++ second)
      (do Traced.ofExcept (combine (← left) (← right))) := by
  cases leftEnds with
  | stops known unknown =>
      rw [List.append_assoc, List.cons_append]
      exact .stops known unknown
  | gives leftKnown one =>
      cases rightEnds with
      | @stops before after pivot name known unknown =>
          have stopped : Ends registry ((first ++ before) ++ (pivot, name) :: after)
              ⟨(first ++ before) ++ [(pivot, name)], .error (.unknownPivot pivot)⟩ :=
            .stops (List.forall_mem_append.mpr ⟨leftKnown, known⟩) unknown
          simpa using stopped
      | gives rightKnown other =>
          obtain ⟨selection, combined, inside⟩ := combines _ _ one other
          have gave := Ends.gives (List.forall_mem_append.mpr ⟨leftKnown, rightKnown⟩) inside
          simpa [combined, Traced.ofExcept] using gave

theorem takeWhile_known {before : List Mark} {pivot : String}
    (known : ∀ leaf ∈ before, leaf.1 ∈ registry.names) (unknown : pivot ∉ registry.names) (name : String)
    (after : List Mark) :
    (before ++ (pivot, name) :: after).takeWhile (fun leaf => decide (leaf.1 ∈ registry.names)) = before := by
  rw [List.takeWhile_append_of_pos (by simpa using known), List.takeWhile_cons_of_neg (by simpa using unknown),
    List.append_nil]

namespace Ends

variable {leaves : List Mark} {evaluation : Traced Error Selection}

theorem fails_iff (ends : Ends registry leaves evaluation) :
    (∃ cause, evaluation.result = .error cause) ↔ ∃ leaf ∈ leaves, leaf.1 ∉ registry.names := by
  cases ends with
  | gives known inside =>
      constructor
      · intro given
        rcases given with ⟨_, fails⟩
        contradiction
      · intro given
        rcases given with ⟨leaf, member, unknown⟩
        exact absurd (known leaf member) unknown
  | stops known unknown =>
      exact iff_of_true ⟨_, rfl⟩ ⟨_, List.mem_append_right _ List.mem_cons_self, unknown⟩

theorem stops_at (ends : Ends registry leaves evaluation) {before after : List Mark} {pivot name : String}
    (split : leaves = before ++ (pivot, name) :: after) (known : ∀ leaf ∈ before, leaf.1 ∈ registry.names)
    (unknown : pivot ∉ registry.names) :
    evaluation = ⟨before ++ [(pivot, name)], .error (.unknownPivot pivot)⟩ := by
  cases ends with
  | gives all inside =>
      have member : (pivot, name) ∈ leaves := split ▸ List.mem_append_right before List.mem_cons_self
      exact absurd (all _ member) unknown
  | stops otherKnown otherUnknown =>
      have front := takeWhile_known known unknown name after
      rw [← split, takeWhile_known otherKnown otherUnknown] at front
      subst front
      obtain ⟨same, _⟩ := List.cons.inj (List.append_cancel_left split)
      cases same
      rfl

theorem exists_selection (ends : Ends registry leaves evaluation)
    (known : ∀ leaf ∈ leaves, leaf.1 ∈ registry.names) :
    ∃ selection, evaluation = ⟨leaves, .ok selection⟩ := by
  cases ends with
  | gives all inside => exact ⟨_, rfl⟩
  | stops _ unknown => exact absurd (known _ (List.mem_append_right _ List.mem_cons_self)) unknown

end Ends

namespace Condition

theorem ends_evaluate (registry : Registry) (condition : Condition) :
    Ends registry condition.leaves (condition.evaluate registry) := by
  induction condition with
  | always => exact .gives (List.forall_mem_nil _) (Selection.known_constant true)
  | never => exact .gives (List.forall_mem_nil _) (Selection.known_constant false)
  | choice pivot name inverted =>
      rw [leaves, evaluate]
      by_cases known : pivot ∈ registry.names
      · obtain ⟨selection, result, inside⟩ := Selection.exists_ofChoice_known known name inverted
        rw [result]
        exact .gives (by simpa using known) inside
      · have stopped : Ends registry ([] ++ [(pivot, name)])
            ⟨[] ++ [(pivot, name)], .error (.unknownPivot pivot)⟩ :=
          .stops (List.forall_mem_nil _) known
        rw [Selection.ofChoice_eq_error known]
        exact stopped
  | and left right ihLeft ihRight =>
      exact ihLeft.connect ihRight fun _ _ => Selection.exists_both_known
  | or left right ihLeft ihRight =>
      exact ihLeft.connect ihRight fun _ _ => Selection.exists_either_known

/-- Evaluation with every check made on the way. -/
def evaluateChecked (registry : Registry) : Condition → Traced StepError Selection
  | always => pure (.constant true)
  | never => pure (.constant false)
  | choice pivot name inverted => do
    Traced.mark pivot name
    Traced.ofExcept (Selection.ofChoiceChecked registry pivot name inverted)
  | and left right => do
    let first ← left.evaluateChecked registry
    let second ← right.evaluateChecked registry
    Traced.ofExcept (Selection.bothChecked registry first second)
  | or left right => do
    let first ← left.evaluateChecked registry
    let second ← right.evaluateChecked registry
    Traced.ofExcept (Selection.eitherChecked registry first second)

theorem evaluateChecked_eq (registry : Registry) (condition : Condition) :
    condition.evaluateChecked registry = (condition.evaluate registry).mapError .lookup := by
  induction condition with
  | always => rfl
  | never => rfl
  | choice pivot name inverted =>
      rw [evaluateChecked, Selection.ofChoiceChecked_eq]
      rfl
  | and left right ihLeft ihRight =>
      simp only [evaluateChecked, evaluate, ihLeft, ihRight, Traced.mapError_bind, Selection.bothChecked_eq]
      rfl
  | or left right ihLeft ihRight =>
      simp only [evaluateChecked, evaluate, ihLeft, ihRight, Traced.mapError_bind, Selection.eitherChecked_eq]
      rfl

/-- Evaluation fails exactly if the pivot of some leaf is unknown. It names the first such pivot and has reported
the leaves up to that one; otherwise it gives a selection and has reported all leaves, also where choices are
unknown. No check on the way adds to this. -/
theorem evaluate_fails_at_first_unknown_pivot (registry : Registry) (condition : Condition) :
    ((∃ cause, (condition.evaluate registry).result = .error cause) ↔
        ∃ leaf ∈ condition.leaves, leaf.1 ∉ registry.names) ∧
      (∀ before pivot name after, condition.leaves = before ++ (pivot, name) :: after →
        (∀ leaf ∈ before, leaf.1 ∈ registry.names) → pivot ∉ registry.names →
        condition.evaluate registry = ⟨before ++ [(pivot, name)], .error (.unknownPivot pivot)⟩) ∧
      ((∀ leaf ∈ condition.leaves, leaf.1 ∈ registry.names) →
        ∃ selection, condition.evaluate registry = ⟨condition.leaves, .ok selection⟩) ∧
      condition.evaluateChecked registry = (condition.evaluate registry).mapError .lookup := by
  have ends := ends_evaluate registry condition
  exact ⟨ends.fails_iff, fun _ _ _ _ => ends.stops_at, ends.exists_selection,
    evaluateChecked_eq registry condition⟩

theorem evaluate_fails_at_first_unknown_pivot_of_example :
    let profile := choice "Configuration" "Profile" true
    let condition := and profile (or (choice "Compiler" "gcc" false) (choice "Platform" "x64" false))
    (∀ leaf ∈ [("Configuration", "Profile")], leaf.1 ∈ Example.registry.names) ∧
      "Compiler" ∉ Example.registry.names ∧
      condition.evaluate Example.registry =
        ⟨[("Configuration", "Profile"), ("Compiler", "gcc")], .error (.unknownPivot "Compiler")⟩ ∧
      ∃ selection, profile.evaluate Example.registry = ⟨[("Configuration", "Profile")], .ok selection⟩ := by
  intro profile condition
  have known : ∀ leaf ∈ [("Configuration", "Profile")], leaf.1 ∈ Example.registry.names := by decide
  have unknown : "Compiler" ∉ Example.registry.names := by decide
  refine ⟨known, unknown, ?_, ?_⟩
  · exact (evaluate_fails_at_first_unknown_pivot Example.registry condition).2.1
      [("Configuration", "Profile")] "Compiler" "gcc" [("Platform", "x64")] rfl known unknown
  · exact (evaluate_fails_at_first_unknown_pivot Example.registry profile).2.2.1 known

end Condition

end Variants
