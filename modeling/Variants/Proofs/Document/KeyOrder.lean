import Variants.Document.KeyOrder

/-!
Which keys have an order: those of one kind. Several keys are sorted iff they are all of one kind.
-/

namespace Variants.Value

inductive KeyKind
  | text
  | number
  | date
  | moment (zoned : Bool)
  | bytes
  deriving DecidableEq, Repr

def keyKind? : Value → Option KeyKind
  | text _ => some .text
  | bool _ | int _ | float _ => some .number
  | date _ => some .date
  | moment m => some (.moment m.offset.isSome)
  | bytes _ => some .bytes
  | _ => none

theorem comparable_iff {a b : Value} :
    a.comparable b = true ↔ ∃ kind, a.keyKind? = some kind ∧ b.keyKind? = some kind := by
  cases a <;> cases b <;> simp [comparable, quantity?, keyKind?]
  -- Two moments are left: one must know its zone iff the other does.
  exact eq_comm

/-- Keys have an order if there are not two of them, or if all are of one kind. -/
def Sortable (keys : List Value) : Prop :=
  keys.length ≤ 1 ∨ ∃ kind, ∀ key ∈ keys, key.keyKind? = some kind

theorem sortKeys?_eq_none_iff {keys : List Value} : sortKeys? keys = none ↔ ¬ Sortable keys := by
  match keys with
  | [] => simp [sortKeys?, Sortable]
  | [key] => simp [sortKeys?, Sortable]
  | first :: second :: rest =>
      have ofOneKind : (second :: rest).all first.comparable = true ↔
          ∃ kind, ∀ key ∈ first :: second :: rest, key.keyKind? = some kind := by
        simp only [List.all_eq_true, comparable_iff]
        constructor
        · intro comparable
          obtain ⟨kind, firstKind, _⟩ := comparable second List.mem_cons_self
          refine ⟨kind, ?_⟩
          intro key member
          rcases List.mem_cons.mp member with rfl | later
          · exact firstKind
          · obtain ⟨other, same, keyKind⟩ := comparable key later
            rwa [firstKind.symm.trans same]
        · intro given key later
          rcases given with ⟨kind, all⟩
          exact ⟨kind, all first List.mem_cons_self, all key (List.mem_cons_of_mem first later)⟩
      have several : ¬ (first :: second :: rest).length ≤ 1 := by simp
      simp only [sortKeys?, Sortable, ofOneKind, several, false_or, ite_eq_right_iff, reduceCtorEq,
        imp_false]

end Variants.Value
