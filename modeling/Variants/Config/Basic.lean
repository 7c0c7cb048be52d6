import Variants.Document.KeyOrder
import Variants.Pivot

/-!
Pivot configurations as document values: a mapping from each pivot's name to its key, description and
choices, and to the bodies of those choices that have more than a name. A document may wrap the whole
under one key of its own. Reading reports the keys it ignores.
-/

namespace Variants

inductive ConfigError
  | notMapping
  | wrappedNotMapping
  | pivotNotMapping (pivot : String)
  | choiceNotMapping (pivot choice : String)
  | choicesNotTexts (pivot : String)
  | aliasesNotTexts (pivot choice : String)
  | unreadableJson
  | unreadableYaml
  deriving DecidableEq, Repr

def ConfigError.message : ConfigError → String
  | notMapping => "Pivot configuration must be a mapping of pivot name to pivot"
  | wrappedNotMapping => "'configurations' must be a mapping of pivot name to pivot"
  | pivotNotMapping pivot => "Pivot '" ++ pivot ++ "' must be a mapping"
  | choiceNotMapping pivot choice => "Choice '" ++ pivot ++ "." ++ choice ++ "' must be a mapping"
  | choicesNotTexts pivot => "choices of '" ++ pivot ++ "' must be a string or a list of strings"
  | aliasesNotTexts pivot choice =>
    "aliases of '" ++ pivot ++ "." ++ choice ++ "' must be a string or a list of strings"
  | unreadableJson => "Invalid JSON pivot configuration"
  | unreadableYaml => "Invalid YAML pivot configuration"

inductive ConfigWarning
  | pivotKey (pivot key : String)
  | choiceKeys (pivot choice : String) (keys : List Value)
  deriving Repr

def ConfigWarning.message : ConfigWarning → String
  | pivotKey pivot key => "Ignoring unknown key '" ++ key ++ "' in pivot '" ++ pivot ++ "'"
  | choiceKeys pivot choice keys =>
    "Ignoring unknown keys for choice '" ++ pivot ++ "." ++ choice ++ "': " ++
      (Value.list keys).shown

/-- Why a value is no configuration. The keys that a choice's body should not have are reported in
order, which fails where they have none, and what is taken for a text may hold an integer that has none. -/
inductive ReadError
  | config (cause : ConfigError)
  | unorderedKeys
  | tooManyDigits
  deriving DecidableEq, Repr

structure Noted (α : Type) where
  value : α
  warnings : List ConfigWarning := []

namespace Noted

variable {α β : Type}

def collect (found : List (Noted α)) : Noted (List α) :=
  ⟨found.map (·.value), found.flatMap (·.warnings)⟩

end Noted

namespace Config

def wrapper : String := "configurations"
def pivotKeys : List String := ["key", "description", "choices"]
def choiceKeys : List String := ["description", "aliases", "condition"]

def isPlain : Value → Bool
  | .text _ | .int _ | .float _ | .bool _ => true
  | _ => false

/-- The texts of a value that is one text, a list of plain scalars, or missing. -/
def texts? : Value → Option (List String)
  | .null => some []
  | .text s => some [s]
  | .list items => if items.all isPlain then some (items.map Value.toText) else none
  | _ => none

def checkShowable (value : Value) : Except ReadError Unit :=
  if value.isShowable then .ok () else .error .tooManyDigits

def readTexts (refusal : ConfigError) (value : Value) : Except ReadError (List String) := do
  let some texts := texts? value | throw (.config refusal)
  checkShowable value
  return texts

def unknownChoiceKeys (entries : Entries) : List Value :=
  (entries.map (·.1)).filter fun key => !choiceKeys.any fun name => key.same (.text name)

def reportIgnored (pivot name : String) (ignored : List Value) : Except ReadError (List ConfigWarning) :=
  if ignored.isEmpty then .ok []
  else
    match Value.sortKeys? ignored with
    | none => .error .unorderedKeys
    | some keys => do
      checkShowable (.list keys)
      return [.choiceKeys pivot name keys]

def conditionText? : Value → Option String
  | .null => none
  | value => some value.toText

def readChoice (pivot name : String) (body : Value) : Except ReadError (Noted ChoiceDefinition) :=
  match body with
  | .null => .ok ⟨{ name }, []⟩
  | .map entries => do
    let warnings ← reportIgnored pivot name (unknownChoiceKeys entries)
    let aliases ← readTexts (.aliasesNotTexts pivot name) (Entries.field entries "aliases")
    checkShowable (Entries.field entries "condition")
    return ⟨{ name, description := Entries.field entries "description", aliases,
              condition := conditionText? (Entries.field entries "condition") }, warnings⟩
  | _ => .error (.config (.choiceNotMapping pivot name))

/-- The entries by the texts of their keys; of two with one text the later item counts. -/
def bodies (entries : Entries) : Entries :=
  Entries.ofList (entries.map fun (key, item) => (.text key.toText, item))

def unknownPivotKeys (entries : Entries) (choices : List String) : List String :=
  ((bodies entries).map (·.1.toText)).filter fun key =>
    !pivotKeys.contains key && !choices.contains key

/-- The choices that a pivot's body lists. The keys of the body are taken for texts to find their bodies. -/
def listedChoices (pivot : String) (entries : Entries) : Except ReadError (List String) := do
  let choices ← readTexts (.choicesNotTexts pivot) (Entries.field entries "choices")
  checkShowable (.list (entries.map (·.1)))
  return choices.eraseDups

def readPivot (name : String) (body : Value) : Except ReadError (Noted PivotDefinition) :=
  match body with
  | .map entries => do
    let choices ← listedChoices name entries
    let warnings := (unknownPivotKeys entries choices).map (.pivotKey name)
    let read := Noted.collect
      (← choices.mapM fun choice => readChoice name choice (Entries.field (bodies entries) choice))
    return ⟨{ name, key := Entries.field entries "key", description := Entries.field entries "description",
              choices := read.value }, warnings ++ read.warnings⟩
  | _ => .error (.config (.pivotNotMapping name))

def readEntry (entry : Value × Value) : Except ReadError (Noted PivotDefinition) := do
  checkShowable entry.1
  readPivot entry.1.toText entry.2

def readEntries (entries : Entries) : Except ReadError (Noted (List PivotDefinition)) :=
  (entries.mapM readEntry).map Noted.collect

def isWrapped (entries : Entries) : Bool :=
  !entries.isEmpty && entries.all fun (key, _) => key.same (.text wrapper)

def read (document : Value) : Except ReadError (Noted (List PivotDefinition)) :=
  match document with
  | .null => .ok ⟨[], []⟩
  | .map entries =>
    if isWrapped entries then
      match (Entries.field entries wrapper).orElse (.map []) with
      | .map inner => readEntries inner
      | _ => .error (.config .wrappedNotMapping)
    else readEntries entries
  | _ => .error (.config .notMapping)

def entryUnlessNull (name : String) (value : Value) : Entries :=
  match value with
  | .null => []
  | value => [(.text name, value)]

def choiceEntries (choice : ChoiceDefinition) : Entries :=
  entryUnlessNull "description" choice.description ++
    (if choice.aliases.isEmpty then [] else [(.text "aliases", Value.ofTexts choice.aliases)]) ++
    (choice.condition.map fun condition => (Value.text "condition", Value.text condition)).toList

def choiceBody (choice : ChoiceDefinition) : Entries :=
  let entries := choiceEntries choice
  if entries.isEmpty then [] else [(.text choice.name, .map entries)]

def writePivot (pivot : PivotDefinition) : Value :=
  .map (Entries.ofList
    ((.text "choices", Value.ofTexts (pivot.choices.map (·.name))) ::
      entryUnlessNull "key" pivot.key ++ entryUnlessNull "description" pivot.description ++
      pivot.choices.flatMap choiceBody))

def write (definitions : List PivotDefinition) : Value :=
  .map (Entries.ofList (definitions.map fun pivot => (.text pivot.name, writePivot pivot)))

end Config

end Variants
