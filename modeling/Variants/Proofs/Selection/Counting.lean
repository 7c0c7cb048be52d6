import Mathlib.Data.List.InsertIdx
import Mathlib.Data.List.Nodup
import Mathlib.Data.List.Perm.Subperm
import Mathlib.Data.List.ProdSigma
import Variants.Proofs.Ascending
import Variants.Selection.Minimal

/-!
Counting rows without one of their entries. A row is what is left of it together with the choice that
is missing, so there are as many rows as pairs of the two iff every pair makes a row.
-/

namespace Variants

open Std (TreeSet)

theorem subset_of_length_le {α : Type} {first second : List α} (distinct : first.Nodup)
    (inside : first ⊆ second) (short : second.length ≤ first.length) : second ⊆ first :=
  ((List.subperm_of_subset distinct inside).perm_of_length_le short).symm.subset

theorem toList_eq_ascending {set : TreeSet Row} {rows : List Row}
    (same : ∀ row, row ∈ set ↔ row ∈ rows) : set.toList = ascending rows := by
  have sorted : set.toList.Pairwise (· < ·) :=
    TreeSet.ordered_toList.imp (ComparesBelow.compare_eq_lt_iff _ _).mp
  apply eq_of_pairwise_lt sorted (pairwise_ascending rows)
  intro row
  rw [TreeSet.mem_toList, mem_ascending, same]

theorem mem_distinctWithin_iff {limit : Nat} {seen found : TreeSet Row} {rows : List Row}
    (finished : distinctWithin limit seen rows = some found) (row : Row) :
    row ∈ found ↔ row ∈ seen ∨ row ∈ rows := by
  refine ⟨mem_of_distinctWithin finished, ?_⟩
  induction rows generalizing seen with
  | nil =>
      rw [distinctWithin, Option.some.injEq] at finished
      simp [finished]
  | cons first rest ih =>
      rw [distinctWithin] at finished
      split at finished
      · contradiction
      · intro member
        apply ih finished
        rcases member with old | new
        · exact .inl (TreeSet.mem_insert.mpr (.inr old))
        · rcases List.mem_cons.mp new with rfl | later
          · exact .inl TreeSet.mem_insert_self
          · exact .inr later

theorem limit_lt_of_distinctWithin_eq_none {limit : Nat} {seen : TreeSet Row} {rows : List Row}
    (stopped : distinctWithin limit seen rows = none) (all : List Row)
    (covered : ∀ row, row ∈ seen ∨ row ∈ rows → row ∈ all) : limit < all.length := by
  induction rows generalizing seen with
  | nil => simp [distinctWithin] at stopped
  | cons first rest ih =>
      have grown : ∀ row, row ∈ seen.insert first → row ∈ all := by
        intro row member
        rcases TreeSet.mem_insert.mp member with new | old
        · exact covered row (.inr (by simp [Std.LawfulEqCmp.eq_of_compare new]))
        · exact covered row (.inl old)
      rw [distinctWithin] at stopped
      split at stopped
      · rename_i exceeded
        have bound : (seen.insert first).toList.length ≤ all.length := by
          apply List.Nodup.length_le_of_subset
          · exact nodup_of_pairwise_lt
              (TreeSet.ordered_toList.imp (ComparesBelow.compare_eq_lt_iff _ _).mp)
          · intro row member
            exact grown row (TreeSet.mem_toList.mp member)
        rw [TreeSet.length_toList] at bound
        omega
      · apply ih stopped
        intro row either
        rcases either with old | later
        · exact grown row old
        · exact covered row (.inr (List.mem_cons_of_mem first later))

/-- Giving up early makes no difference: the rows are counted as if none were left out. -/
theorem reduceAt?_eq_some_iff {rows reduced : List Row} {index size : Nat} :
    reduceAt? rows index size = some reduced ↔
      rows.length % size = 0 ∧
        (ascending (rows.map (·.eraseIdx index))).length = rows.length / size ∧
        reduced = ascending (rows.map (·.eraseIdx index)) := by
  rw [reduceAt?]
  split
  · rename_i divides
    cases counted : distinctWithin (rows.length / size) {} (rows.map (·.eraseIdx index)) with
    | none =>
        have more := limit_lt_of_distinctWithin_eq_none counted
          (ascending (rows.map (·.eraseIdx index))) (by simp)
        simp only [Option.filter_none, Option.map_none, reduceCtorEq, false_iff]
        intro given
        rcases given with ⟨_, same, _⟩
        omega
    | some found =>
        have listed : found.toList = ascending (rows.map (·.eraseIdx index)) := by
          apply toList_eq_ascending
          intro row
          simp [mem_distinctWithin_iff counted]
        have size : found.size = (ascending (rows.map (·.eraseIdx index))).length := by
          rw [← listed, TreeSet.length_toList]
        simp [Option.filter_some, divides, listed, size, eq_comm]
  · rename_i leaves
    simp [leaves]

/-- Whatever stands at `index` may be replaced by any of the choices. -/
def FreeAt (rows : List Row) (choices : List String) (index : Nat) : Prop :=
  ∀ row ∈ rows, ∀ choice ∈ choices, row.set index choice ∈ rows

def parts (index : Nat) (row : Row) : Row × String :=
  (row.eraseIdx index, row[index]?.getD "")

theorem parts_set {row : Row} {index : Nat} (inside : index < row.length) (choice : String) :
    parts index (row.set index choice) = (row.eraseIdx index, choice) := by
  simp [parts, List.eraseIdx_set_eq, inside]

theorem eq_of_parts_eq {first second : Row} {index : Nat} (firstInside : index < first.length)
    (secondInside : index < second.length) (same : parts index first = parts index second) :
    first = second := by
  simp only [parts, List.getElem?_eq_getElem firstInside, List.getElem?_eq_getElem secondInside,
    Option.getD_some, Prod.mk.injEq] at same
  rw [← List.insertIdx_eraseIdx_getElem firstInside, ← List.insertIdx_eraseIdx_getElem secondInside,
    same.1, same.2]

section

variable {rows : List Row} {choices : List String} {index : Nat}

theorem map_parts_subset (declared : ∀ row ∈ rows, row[index]?.getD "" ∈ choices) :
    rows.map (parts index) ⊆ ascending (rows.map (·.eraseIdx index)) ×ˢ choices := by
  intro pair member
  obtain ⟨row, present, rfl⟩ := List.mem_map.mp member
  have left : row.eraseIdx index ∈ ascending (rows.map (·.eraseIdx index)) :=
    mem_ascending.mpr (List.mem_map_of_mem present)
  exact List.mem_product.mpr ⟨left, declared row present⟩

theorem subset_map_parts_iff (inside : ∀ row ∈ rows, index < row.length) :
    ascending (rows.map (·.eraseIdx index)) ×ˢ choices ⊆ rows.map (parts index) ↔
      FreeAt rows choices index := by
  constructor
  · intro complete row present choice declared
    have left : row.eraseIdx index ∈ ascending (rows.map (·.eraseIdx index)) :=
      mem_ascending.mpr (List.mem_map_of_mem present)
    obtain ⟨other, found, same⟩ := List.mem_map.mp (complete (List.mem_product.mpr ⟨left, declared⟩))
    rw [← parts_set (inside row present) choice] at same
    have width : index < (row.set index choice).length := by simpa using inside row present
    rwa [← eq_of_parts_eq (inside other found) width same]
  · intro free given member
    rcases given with ⟨rest, choice⟩
    obtain ⟨left, declared⟩ := List.mem_product.mp member
    obtain ⟨row, present, rfl⟩ := List.mem_map.mp (mem_ascending.mp left)
    exact List.mem_map.mpr ⟨_, free row present choice declared, parts_set (inside row present) choice⟩

theorem length_eq_mul_iff_freeAt (distinct : rows.Nodup) (choicesDistinct : choices.Nodup)
    (inside : ∀ row ∈ rows, index < row.length)
    (declared : ∀ row ∈ rows, row[index]?.getD "" ∈ choices) :
    rows.length = (ascending (rows.map (·.eraseIdx index))).length * choices.length ↔
      FreeAt rows choices index := by
  have pairsDistinct : (rows.map (parts index)).Nodup := by
    apply distinct.map_on
    intro first firstPresent second secondPresent same
    exact eq_of_parts_eq (inside first firstPresent) (inside second secondPresent) same
  have productDistinct := (nodup_ascending (rows.map (·.eraseIdx index))).product choicesDistinct
  have pairs : (rows.map (parts index)).length = rows.length := List.length_map _
  rw [← List.length_product, ← pairs, ← subset_map_parts_iff inside]
  constructor
  · intro counted
    exact subset_of_length_le pairsDistinct (map_parts_subset declared)
      (Nat.le_of_eq counted.symm)
  · intro complete
    exact Nat.le_antisymm (pairsDistinct.length_le_of_subset (map_parts_subset declared))
      (productDistinct.length_le_of_subset complete)

end

end Variants
