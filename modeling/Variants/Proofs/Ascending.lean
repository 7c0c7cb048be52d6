import Variants.Ascending

/-!
A set has one strictly ascending list, so what is known of its members decides the list.
-/

namespace Variants

open Std (TransOrd LawfulEqOrd OrientedCmp)

variable {α : Type} [Ord α] [TransOrd α] [LT α] [ComparesBelow α]

theorem not_lt_of_lt {a b : α} (below : a < b) : ¬ b < a := by
  intro above
  have forward := (ComparesBelow.compare_eq_lt_iff a b).mpr below
  have backward := (ComparesBelow.compare_eq_lt_iff b a).mpr above
  exact OrientedCmp.not_lt_of_lt forward backward

theorem nodup_of_pairwise_lt {members : List α} (sorted : members.Pairwise (· < ·)) :
    members.Nodup := by
  apply sorted.imp
  intro a b below same
  subst same
  exact not_lt_of_lt below below

theorem eq_of_pairwise_lt {first second : List α} (firstSorted : first.Pairwise (· < ·))
    (secondSorted : second.Pairwise (· < ·)) (same : ∀ a, a ∈ first ↔ a ∈ second) :
    first = second := by
  have perm : first.Perm second :=
    (List.perm_ext_iff_of_nodup (nodup_of_pairwise_lt firstSorted)
      (nodup_of_pairwise_lt secondSorted)).mpr same
  apply perm.eq_of_pairwise _ firstSorted secondSorted
  intro a b _ _ below above
  exact absurd above (not_lt_of_lt below)

theorem nodup_ascending (members : List α) : (ascending members).Nodup :=
  nodup_of_pairwise_lt (pairwise_ascending members)

variable [LawfulEqOrd α]

theorem ascending_congr {first second : List α} (same : ∀ a, a ∈ first ↔ a ∈ second) :
    ascending first = ascending second := by
  apply eq_of_pairwise_lt (pairwise_ascending first) (pairwise_ascending second)
  intro a
  rw [mem_ascending, mem_ascending, same]

theorem ascending_append_comm (first second : List α) :
    ascending (first ++ second) = ascending (second ++ first) := by
  apply ascending_congr
  intro a
  rw [List.mem_append, List.mem_append, or_comm]

theorem ascending_of_pairwise_lt {members : List α} (sorted : members.Pairwise (· < ·)) :
    ascending members = members := by
  apply eq_of_pairwise_lt (pairwise_ascending members) sorted
  intro a
  exact mem_ascending

end Variants
