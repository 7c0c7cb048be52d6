import Variants.Error
import Variants.Pivot

/-!
Templates: the target syntaxes that conditions are rendered in. A template has the texts that stand
between terms, a pattern for groups and a style for single choices. Callers may write choices in ways
of their own, which may fail.
-/

namespace Variants

class AtomWriter (Custom : Type) where
  write : Custom → (scope choice : String) → Pivot → Except Error String

instance : AtomWriter Empty where
  write style := nomatch style

inductive AtomStyle (Custom : Type := Empty)
  | choice
  | condition
  | scoped
  | custom (style : Custom)
  deriving DecidableEq, Repr

structure Template (Custom : Type := Empty) where
  name : String
  and : String
  or : String
  andNot : String
  orNot : String
  not : String
  group : String
  atom : AtomStyle Custom
  deriving DecidableEq, Repr

namespace Template

variable {Custom : Type}

def buildCondition : Template Custom where
  name := "build-condition"
  and := " And "
  or := " Or "
  andNot := " And !"
  orNot := " Or !"
  not := "!"
  group := "( \x7b0\x7d )"
  atom := .condition

def label : Template Custom where
  name := "label"
  and := " and "
  or := " or "
  andNot := " and not "
  orNot := " or not "
  not := " not "
  group := "(\x7b0\x7d)"
  atom := .choice

def path : Template Custom where
  name := "path"
  and := "\\"
  or := "+"
  andNot := "\\!"
  orNot := "+!"
  not := "!"
  group := "(\x7b0\x7d)"
  atom := .choice

def filename : Template Custom where
  name := "filename"
  and := "_"
  or := "_"
  andNot := "_-"
  orNot := "_-"
  not := "-"
  group := "__\x7b0\x7d__"
  atom := .choice

def builtIns (Custom : Type := Empty) : List (Template Custom) :=
  [buildCondition, label, path, filename]

def named? (name : String) : Option (Template Custom) :=
  (builtIns Custom).find? (·.name == name)

def shown (template : Template Custom) : String :=
  "Template(" ++ quoted template.name ++ ")"

end Template

/-- The condition of a choice: its own one in a built-in pivot, else a comparison with the key. -/
def Pivot.conditionText (pivot : Pivot) (choice : String) : String :=
  if pivot.isBuiltIn then ((pivot.find? choice).bind (·.condition)).getD ""
  else "'$(" ++ pivot.conditionKey.toText ++ ".ToLower())' == '" ++ lowercase choice ++ "'"

def AtomStyle.text {Custom : Type} [AtomWriter Custom] (style : AtomStyle Custom)
    (scope choice : String) (pivot : Pivot) : Except Error String :=
  match style with
  | .choice => .ok choice
  | .condition => .ok (pivot.conditionText choice)
  | .scoped => .ok ("<" ++ scope ++ ":" ++ pivot.name ++ "." ++ choice ++ ">")
  | .custom style => AtomWriter.write style scope choice pivot

end Variants
