import Std.Data.TreeSet

/-!
Finite sets as strictly ascending lists. A list loses its repeats and is put in order, so that two sets
with the same members are the same list.
-/

namespace Variants

open Std (TreeSet TransOrd LawfulEqOrd)

/-- The members of a list in ascending order, each once. -/
def ascending {α : Type} [Ord α] (members : List α) : List α :=
  (TreeSet.ofList members).toList

/-- Orders in which comparing two members tells whether the first is below the second. -/
class ComparesBelow (α : Type) [Ord α] [LT α] : Prop where
  compare_eq_lt_iff (a b : α) : compare a b = .lt ↔ a < b

instance : ComparesBelow String where
  compare_eq_lt_iff _ _ := compareOfLessAndEq_eq_lt

variable {α : Type} [Ord α]

instance [LT α] [LawfulEqOrd α] [ComparesBelow α] : ComparesBelow (List α) where
  compare_eq_lt_iff first second := by
    induction first generalizing second with
    | nil => cases second <;> simp
    | cons a rest ih =>
      cases second with
      | nil => simp
      | cons b others =>
        simp [Ordering.then_eq_lt, List.cons_lt_cons_iff, ComparesBelow.compare_eq_lt_iff, ih]

variable [TransOrd α]

@[simp]
theorem mem_ascending [LawfulEqOrd α] {a : α} {members : List α} :
    a ∈ ascending members ↔ a ∈ members := by
  classical
  simp [ascending, TreeSet.mem_toList, TreeSet.mem_ofList]

theorem pairwise_ascending [LT α] [ComparesBelow α] (members : List α) :
    (ascending members).Pairwise (· < ·) :=
  TreeSet.ordered_toList.imp (ComparesBelow.compare_eq_lt_iff _ _).mp

end Variants
