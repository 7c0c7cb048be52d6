import Variants.Ascending
import Variants.Text.Quoted

/-!
Selections: which variants of a build a condition admits. A selection is constant, or it is a set of
combinations, each a row with one choice for every relevant pivot. Pivots and rows are in ascending
order, so equal selections are the same value.
-/

namespace Variants

abbrev Row := List String

/-- Pivots with their choices; of two choices of one pivot the first counts. -/
abbrev Assignment := List (String × String)

structure Combinations where
  pivots : List String
  rows : List Row
  pivots_ascending : pivots.Pairwise (· < ·)
  rows_ascending : rows.Pairwise (· < ·)
  rows_width : ∀ row ∈ rows, row.length = pivots.length
  deriving DecidableEq, Repr

inductive SelectionError
  | constantWithRows
  | unorderedPivots (pivots : List String)
  | widthMismatch (row : Row) (pivots : List String)
  | missing (name : String)
  | unsupportedKind (kind : String)
  | notMapping
  | wrongType
  deriving DecidableEq, Repr

def SelectionError.message : SelectionError → String
  | constantWithRows => "Invariant expressions have no pivots or combinations"
  | unorderedPivots pivots => "Relevant pivots must be sorted and unique: " ++ quotedRow pivots
  | widthMismatch row pivots =>
    "Combination " ++ quotedRow row ++ " does not match pivots " ++ quotedRow pivots
  | missing name => name
  | unsupportedKind kind => "Unsupported expression dict type: " ++ kind
  | notMapping => "not a mapping"
  | wrongType => "wrong type"

namespace Assignment

def row (assignment : Assignment) (pivots : List String) : Row :=
  pivots.map fun pivot => (assignment.lookup pivot).getD ""

end Assignment

def uncovered? {α : Type} (pivots : List String) (entries : List (String × α)) : Option String :=
  pivots.find? fun pivot => (entries.lookup pivot).isNone

namespace Combinations

def empty : Combinations := ⟨[], [], .nil, .nil, by simp⟩

def ofRows (pivots : List String) (rows : List Row) (sorted : pivots.Pairwise (· < ·))
    (width : ∀ row ∈ rows, row.length = pivots.length) : Combinations where
  pivots := pivots
  rows := ascending rows
  pivots_ascending := sorted
  rows_ascending := pairwise_ascending rows
  rows_width := fun row member => width row (mem_ascending.mp member)

def ofChoices (pivot : String) (choices : List String) : Combinations :=
  ofRows [pivot] (choices.map ([·])) (List.pairwise_singleton _ _) (by simp)

def ofAssignments (pivots : List String) (assignments : List Assignment) : Combinations :=
  ofRows (ascending pivots) (assignments.map (Assignment.row · (ascending pivots)))
    (pairwise_ascending pivots) (by simp [Assignment.row])

def ofAssignments? (pivots : List String) (assignments : List Assignment) :
    Except SelectionError Combinations :=
  match assignments.findSome? (uncovered? (ascending pivots)) with
  | some pivot => .error (.missing pivot)
  | none => .ok (ofAssignments pivots assignments)

def assignments (combinations : Combinations) : List Assignment :=
  combinations.rows.map combinations.pivots.zip

def choiceSets (combinations : Combinations) : List (List String) :=
  ascending (combinations.rows.map ascending)

def rowText (row : Row) : String :=
  "(" ++ ",".intercalate row ++ ")"

def text (combinations : Combinations) : String :=
  "|".intercalate (combinations.rows.map rowText)

end Combinations

inductive Selection
  | constant (holds : Bool)
  | combinations (combinations : Combinations)
  deriving DecidableEq, Repr

namespace Selection

/-- The checked selection of parts that came from elsewhere. -/
def make? (constant? : Option Bool) (pivots : List String) (rows : List Row) :
    Except SelectionError Selection :=
  match constant? with
  | some holds =>
    if pivots.isEmpty && rows.isEmpty then .ok (constant holds) else .error .constantWithRows
  | none =>
    if sorted : pivots.Pairwise (· < ·) then
      if width : ∀ row ∈ rows, row.length = pivots.length then
        .ok (combinations (.ofRows pivots rows sorted width))
      else
        match rows.find? (·.length != pivots.length) with
        | some row => .error (.widthMismatch row pivots)
        | none => .error .wrongType
    else .error (.unorderedPivots pivots)

def toCombinations : Selection → Combinations
  | constant _ => .empty
  | combinations table => table

def relevant (selection : Selection) : List String :=
  selection.toCombinations.pivots

def isConstant : Selection → Bool
  | constant _ => true
  | combinations _ => false

def choicesOf (variant : String → Option String) : List String → Except SelectionError Row
  | [] => .ok []
  | pivot :: rest =>
    match variant pivot with
    | none => .error (.missing pivot)
    | some choice => (choicesOf variant rest).map (choice :: ·)

/-- Whether a variant is selected, if it has a choice for every relevant pivot. -/
def admits (selection : Selection) (variant : String → Option String) :
    Except SelectionError Bool :=
  match selection with
  | constant holds => .ok holds
  | combinations table =>
    (choicesOf variant table.pivots).map fun row => table.rows.contains row

def text : Selection → String
  | constant holds => if holds then "true" else "false"
  | combinations table => table.text

end Selection

end Variants
