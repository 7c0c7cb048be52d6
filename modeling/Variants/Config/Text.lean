import Variants.Config.Basic
import Variants.Document.Json
import Variants.Document.Yaml.Reading
import Variants.Document.Yaml.Writer

/-!
Pivot configurations as text: JSON, YAML, or a file whose name tells which of the two it holds.
-/

namespace Variants

inductive LoadError
  | document (cause : ReadError)
  | scalar (cause : Yaml.Problem)
  | missingFile
  deriving DecidableEq, Repr

namespace Config

def readDocument (document : Value) : Except LoadError (Noted (List PivotDefinition)) :=
  (read document).mapError .document

def ofJson (text : String) : Except LoadError (Noted (List PivotDefinition)) :=
  match Json.read? text with
  | some document => readDocument document
  | none => .error (.document (.config .unreadableJson))

/-- The definitions in a text that `load` reads as YAML. -/
def ofYamlBy (load : String → Except Yaml.Problem Value) (text : String) :
    Except LoadError (Noted (List PivotDefinition)) :=
  match load text with
  | .ok document => readDocument document
  | .error .unreadable => .error (.document (.config .unreadableYaml))
  | .error problem => .error (.scalar problem)

def ofYaml (text : String) : Except LoadError (Noted (List PivotDefinition)) :=
  ofYamlBy Yaml.read text

def toJson? (definitions : List PivotDefinition) : Option String :=
  Json.write? (write definitions)

def toYamlBy? (dump : Value → Option String) (definitions : List PivotDefinition) : Option String :=
  dump (write definitions)

def toYaml? (definitions : List PivotDefinition) : Option String :=
  toYamlBy? Yaml.write? definitions

/-- What a file's name ends in, from its last point on, unless only points stand before that. -/
def extension (name : String) : String :=
  let base := (name.toList.reverse.takeWhile (· != '/')).reverse
  let ending := (base.reverse.takeWhile (· != '.')).reverse
  let stem := base.take (base.length - ending.length - 1)
  if ending.length < base.length && stem.any (· != '.') then String.ofList ('.' :: ending) else ""

def isJsonFile (name : String) : Bool :=
  lowercase (extension name) == ".json"

def unifyLines : List Char → List Char
  | '\r' :: '\n' :: rest => '\n' :: unifyLines rest
  | '\r' :: rest => '\n' :: unifyLines rest
  | c :: rest => c :: unifyLines rest
  | [] => []

def load (name : String) (content : Option String) :
    Except LoadError (Noted (List PivotDefinition)) :=
  match content with
  | none => .error .missingFile
  | some content =>
    let text := String.ofList (unifyLines content.toList)
    if isJsonFile name then ofJson text else ofYaml text

end Config

end Variants
