import Variants.Document.Value
import Variants.Selection.Basic

/-!
Selections as documents: a constant with its value, or the relevant pivots with the combinations.
-/

namespace Variants.Selection

def toValue : Selection → Value
  | constant holds => .map [(.text "type", .text "invariant"), (.text "value", .bool holds)]
  | combinations table =>
    .map [(.text "type", .text "combinations"), (.text "relevant", Value.ofTexts table.pivots),
      (.text "combinations", .list (table.rows.map Value.ofTexts))]

def required (entries : Entries) (name : String) : Except SelectionError Value :=
  match Entries.get? entries (.text name) with
  | some value => .ok value
  | none => .error (.missing name)

/-- The members of a value that holds others: items, characters or keys. -/
def members : Value → Except SelectionError (List Value)
  | .list items => .ok items
  | .text s => .ok (s.toList.map fun c => .text c.toString)
  | .map entries => .ok (entries.map (·.1))
  | _ => .error .wrongType

def nameOf : Value → Except SelectionError String
  | .text s => .ok s
  | _ => .error .wrongType

/-- A row's entries by the pivots it is written for; of a pivot's entries the last counts. -/
def entriesFor (pivots : List String) (row : List Value) : List (String × Value) :=
  (pivots.zip row).reverse

def assignmentOf (entries : List (String × Value)) : Except SelectionError Assignment :=
  entries.mapM fun (pivot, choice) => (nameOf choice).map (pivot, ·)

def ofValue (value : Value) : Except SelectionError Selection := do
  let .map entries := value | throw .notMapping
  match Entries.field entries "type" with
  | .text "invariant" => return constant (← required entries "value").given
  | .text "combinations" =>
    let pivots ← members (← required entries "relevant")
    let rows ← required entries "combinations"
    let pivots ← pivots.mapM nameOf
    let rows := (← (← members rows).mapM members).map (entriesFor pivots)
    match rows.findSome? (uncovered? (ascending pivots)) with
    | some pivot => throw (.missing pivot)
    | none => return combinations (.ofAssignments pivots (← rows.mapM assignmentOf))
  | kind => throw (.unsupportedKind kind.toText)

end Variants.Selection
