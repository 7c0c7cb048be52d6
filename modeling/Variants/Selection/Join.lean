import Std.Data.TreeMap
import Std.Data.TreeSet
import Variants.Registry
import Variants.Selection.Basic

/-!
Joins of combinations. What holds of both sides is their natural join, for which the pivots of the two
sides decide the way; what holds of either side is the union of both, widened to the same pivots.
-/

namespace Variants

open Std (TreeMap TreeSet)

namespace Combinations

/-- The rows of `wide` that agree with a row of `narrow`, whose pivots are all among those of `wide`. -/
def semiJoin (narrow wide : Combinations) : Combinations :=
  let accepted := TreeSet.ofList narrow.rows
  { wide with
    rows := wide.rows.filter fun row =>
      accepted.contains (Assignment.row (wide.pivots.zip row) narrow.pivots)
    rows_ascending := wide.rows_ascending.filter _
    rows_width := fun row member => wide.rows_width row ((List.mem_filter.mp member).1) }

def crossJoin (left right : Combinations) : Combinations :=
  ofAssignments (left.pivots ++ right.pivots)
    (left.assignments.flatMap fun first => right.assignments.map fun second => second ++ first)

def groups (pivots : List String) (assignments : List Assignment) :
    TreeMap Row (List Assignment) :=
  assignments.foldl
    (fun groups assignment =>
      let key := assignment.row pivots
      groups.insert key (groups.getD key [] ++ [assignment])) {}

def groupedJoin (shared : List String) (left right : Combinations) : Combinations :=
  let byShared := groups shared left.assignments
  ofAssignments (left.pivots ++ right.pivots)
    (right.assignments.flatMap fun second =>
      (byShared.getD (second.row shared) []).map fun first => second ++ first)

def joinOrdered (left right : Combinations) : Combinations :=
  let shared := left.pivots.filter right.pivots.contains
  if left.pivots.all right.pivots.contains then semiJoin left right
  else if shared.isEmpty then crossJoin left right
  else groupedJoin shared left right

def intersect (left right : Combinations) : Combinations :=
  if left.pivots.length > right.pivots.length then joinOrdered right left
  else joinOrdered left right

/-- One choice of each list, the last one changing fastest. -/
def choicesProduct : List (List String) → List Row
  | [] => [[]]
  | choices :: rest => choices.flatMap fun choice => (choicesProduct rest).map (choice :: ·)

def missingPivots (table : Combinations) (pivots : List String) : List String :=
  (ascending pivots).filter fun pivot => !table.pivots.contains pivot

def expand (registry : Registry) (table : Combinations) (pivots : List String) :
    Except Error (List Assignment) := do
  let missing := table.missingPivots pivots
  let domains ← missing.mapM registry.choices
  return table.assignments.flatMap fun assignment =>
    (choicesProduct domains).map fun extra => assignment ++ missing.zip extra

def union (registry : Registry) (left right : Combinations) : Except Error Combinations := do
  let pivots := left.pivots ++ right.pivots
  let first ← left.expand registry pivots
  let second ← right.expand registry pivots
  return ofAssignments pivots (first ++ second)

end Combinations

end Variants
