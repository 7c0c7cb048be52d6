import Std.Data.TreeSet
import Variants.Registry
import Variants.Selection.Basic

/-!
The minimal form of a selection. A pivot has no influence when every combination of the other pivots
stands with each of its choices. Since no such combination can stand with more choices than there are,
counting the combinations left without the pivot decides it.
-/

namespace Variants

open Std (TreeSet)

/-- The distinct rows together with those seen, given up as soon as they are more than `limit`. -/
def distinctWithin (limit : Nat) (seen : TreeSet Row) : List Row → Option (TreeSet Row)
  | [] => some seen
  | row :: rest =>
    let seen := seen.insert row
    if seen.size > limit then none else distinctWithin limit seen rest

theorem mem_of_distinctWithin {limit : Nat} {seen found : TreeSet Row} {rows : List Row}
    (finished : distinctWithin limit seen rows = some found) {row : Row} (member : row ∈ found) :
    row ∈ seen ∨ row ∈ rows := by
  induction rows generalizing seen with
  | nil =>
    rw [distinctWithin, Option.some.injEq] at finished
    exact .inl (finished ▸ member)
  | cons first rest ih =>
    rw [distinctWithin] at finished
    split at finished
    · contradiction
    · rcases ih finished with old | later
      · rcases TreeSet.mem_insert.mp old with new | old
        · exact .inr (by simp [Std.LawfulEqCmp.eq_of_compare new])
        · exact .inl old
      · exact .inr (List.mem_cons_of_mem _ later)

/-- The rows without their entry at `index`, if each then stands for exactly `size` of them. -/
def reduceAt? (rows : List Row) (index size : Nat) : Option (List Row) :=
  if rows.length % size = 0 then
    ((distinctWithin (rows.length / size) {} (rows.map (·.eraseIdx index))).filter
      (·.size = rows.length / size)).map (·.toList)
  else none

theorem mem_of_reduceAt? {rows reduced : List Row} {index size : Nat}
    (reduces : reduceAt? rows index size = some reduced) {row : Row} (member : row ∈ reduced) :
    ∃ whole ∈ rows, row = whole.eraseIdx index := by
  rw [reduceAt?] at reduces
  split at reduces
  · obtain ⟨found, counted, rfl⟩ := Option.map_eq_some_iff.mp reduces
    have finished := (Option.filter_eq_some_iff.mp counted).1
    rcases mem_of_distinctWithin finished (TreeSet.mem_toList.mp member) with none | some
    · simp at none
    · obtain ⟨whole, present, rfl⟩ := List.mem_map.mp some
      exact ⟨whole, present, rfl⟩
  · contradiction

namespace Combinations

def dropAt? (table : Combinations) (index size : Nat) : Option Combinations :=
  if inside : index < table.pivots.length then
    match reduces : reduceAt? table.rows index size with
    | none => none
    | some reduced =>
      some <| ofRows (table.pivots.eraseIdx index) reduced
        (table.pivots_ascending.sublist (List.eraseIdx_sublist _ _)) <| by
          intro row member
          obtain ⟨whole, present, rfl⟩ := mem_of_reduceAt? reduces member
          have width := table.rows_width whole present
          rw [List.length_eraseIdx_of_lt (width ▸ inside), List.length_eraseIdx_of_lt inside, width]
  else none

/-- The combinations without the first pivot that has no influence; `sizes` counts the choices of each
pivot. -/
def dropOne? (table : Combinations) (sizes : List Nat) : Option Combinations :=
  sizes.zipIdx.findSome? fun (size, index) => table.dropAt? index size

theorem pivots_length_of_dropAt? {table smaller : Combinations} {index size : Nat}
    (dropped : table.dropAt? index size = some smaller) :
    smaller.pivots.length < table.pivots.length := by
  rw [dropAt?] at dropped
  split at dropped
  · rename_i inside
    split at dropped
    · contradiction
    · rw [Option.some.injEq] at dropped
      rw [← dropped, ofRows, List.length_eraseIdx_of_lt inside]
      omega
  · contradiction

theorem pivots_length_of_dropOne? {table smaller : Combinations} {sizes : List Nat}
    (dropped : table.dropOne? sizes = some smaller) :
    smaller.pivots.length < table.pivots.length := by
  obtain ⟨_, _, _, _, found, _⟩ := List.findSome?_eq_some_iff.mp dropped
  exact pivots_length_of_dropAt? found

def sizes (registry : Registry) (table : Combinations) : Except Error (List Nat) :=
  table.pivots.mapM fun pivot => (registry.choices pivot).map List.length

/-- The smallest selection with the same meaning. No combination is constantly false, and the full
product constantly true. -/
def simplify (registry : Registry) (table : Combinations) : Except Error Selection :=
  if table.rows.isEmpty then .ok (.constant false)
  else
    match table.sizes registry with
    | .error e => .error e
    | .ok sizes =>
      if table.rows.length = sizes.foldr (· * ·) 1 then .ok (.constant true)
      else
        match _ : table.dropOne? sizes with
        | none => .ok (.combinations table)
        | some smaller => simplify registry smaller
termination_by table.pivots.length
decreasing_by exact pivots_length_of_dropOne? ‹_›

end Combinations

def Selection.simplify (registry : Registry) : Selection → Except Error Selection
  | constant holds => .ok (constant holds)
  | combinations table => table.simplify registry

end Variants
