import Variants.Proofs.Condition.Words
import Variants.Proofs.Evaluation

/-!
The leaves of a condition. The condition of a text has as its leaves the choices that the words of the
text name, in that order, and evaluation reports every leaf, whatever becomes of it on the way.
-/

namespace Variants

namespace Condition

/-- The choices at the leaves, from left to right. -/
def leaves : Condition → List Mark
  | always | never => []
  | choice pivot name _ => [(pivot, name)]
  | and left right | or left right => left.leaves ++ right.leaves

variable {registry : Registry}

theorem leaves_invert (condition : Condition) : condition.invert.leaves = condition.leaves := by
  induction condition with
  | always => rfl
  | never => rfl
  | choice pivot name inverted => rfl
  | and left right ihLeft ihRight => rw [invert, leaves, leaves, ihLeft, ihRight]
  | or left right ihLeft ihRight => rw [invert, leaves, leaves, ihLeft, ihRight]

theorem leaves_negateIf (negated : Bool) (condition : Condition) :
    (condition.negateIf negated).leaves = condition.leaves := by
  cases negated with
  | false => rfl
  | true => exact leaves_invert condition

theorem leaves_connect (connective : Option Connective) (left right : Condition) :
    (connect connective left right).leaves = left.leaves ++ right.leaves := by
  unfold connect
  split
  · rfl
  · rfl

theorem leaves_of_constant?_eq_some {word : String} {condition : Condition}
    (found : constant? word = some condition) : condition.leaves = [] := by
  rw [constant?] at found
  split at found
  · cases found
    rfl
  · split at found
    · cases found
      rfl
    · contradiction

theorem leaves_of_ofWord_eq_ok {word : String} {condition : Condition}
    (read : ofWord registry word = .ok condition) :
    condition.leaves = [word].filterMap registry.resolve? := by
  rcases ofWord_eq_ok_iff.mp read with ⟨pivot, name, resolved, rfl⟩ | ⟨unresolved, constant⟩
  · simp [leaves, resolved]
  · simp [leaves_of_constant?_eq_some constant, unresolved]

mutual

theorem leaves_of_ofTerm_eq_ok {term : Term} {condition : Condition}
    (read : ofTerm registry term = .ok condition) :
    condition.leaves = term.words.filterMap registry.resolve? := by
  cases term with
  | word lead word =>
      rcases ofTerm_word_eq_ok_iff.mp read with ⟨plain, plainRead, rfl⟩
      rw [leaves_negateIf, Term.words, leaves_of_ofWord_eq_ok plainRead]
  | group lead terms =>
      rcases ofTerm_group_eq_ok_iff.mp read with ⟨plain, plainRead, rfl⟩
      have inner := leaves_of_ofTerms_eq_ok plainRead
      rw [leaves_negateIf, Term.words, inner]
      rfl

theorem leaves_of_ofTerms_eq_ok {before : Option Condition} {terms : List Term}
    {condition : Condition} (read : ofTerms registry before terms = .ok condition) :
    condition.leaves = before.elim [] leaves ++ (levelWords terms).filterMap registry.resolve? := by
  cases terms with
  | nil =>
      obtain rfl := ofTerms_nil_eq_ok_iff.mp read
      cases before with
      | none => rfl
      | some left => simp [levelWords]
  | cons term rest =>
      rcases ofTerms_cons_eq_ok_iff.mp read with ⟨right, termRead, restRead⟩
      have further := leaves_of_ofTerms_eq_ok restRead
      have first := leaves_of_ofTerm_eq_ok termRead
      rw [levelWords, List.filterMap_append, further, ← first]
      cases before with
      | none => rfl
      | some left => rw [Option.elim_some, Option.elim_some, Option.elim_some, leaves_connect,
          List.append_assoc]

end

theorem leaves_of_parse_eq_ok {text : String} {condition : Condition}
    (read : parse registry (some text) = .ok condition) : condition.leaves = registry.mentions text := by
  rcases parse_eq_ok_iff.mp read with ⟨terms, split, termsRead⟩
  rw [leaves_of_ofTerms_eq_ok termsRead, levelWords_eq_words split]
  rfl

theorem declares_of_mem_leaves {condition : Condition} (declared : condition.Declared registry)
    {pivot name : String} (member : (pivot, name) ∈ condition.leaves) :
    registry.Declares pivot name := by
  induction condition with
  | always => contradiction
  | never => contradiction
  | choice other otherName inverted =>
      rcases Prod.mk.inj (List.mem_singleton.mp member) with ⟨rfl, rfl⟩
      exact declared
  | and left right ihLeft ihRight =>
      rcases List.mem_append.mp member with inLeft | inRight
      · exact ihLeft declared.1 inLeft
      · exact ihRight declared.2 inRight
  | or left right ihLeft ihRight =>
      rcases List.mem_append.mp member with inLeft | inRight
      · exact ihLeft declared.1 inLeft
      · exact ihRight declared.2 inRight

theorem reports_evaluate (registry : Registry) (condition : Condition) :
    (condition.evaluate registry).Reports condition.leaves := by
  induction condition with
  | always => exact Traced.reports_pure _
  | never => exact Traced.reports_pure _
  | choice pivot name inverted => exact (Traced.reports_mark pivot name).then_ofExcept _
  | and left right ihLeft ihRight => exact ihLeft.bind fun _ _ => ihRight.then_ofExcept _
  | or left right ihLeft ihRight => exact ihLeft.bind fun _ _ => ihRight.then_ofExcept _

theorem marks_evaluate {condition : Condition} (declared : condition.Declared registry) :
    (condition.evaluate registry).marks = condition.leaves := by
  rcases evaluate_computes declared with ⟨selection, result, _⟩
  exact (reports_evaluate registry condition).complete selection result

end Condition

end Variants
