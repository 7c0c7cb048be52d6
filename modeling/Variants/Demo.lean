import Variants.Engine.Request
import Variants.Example

/-!
A demonstration: a few conditions over the example pivots, each with its selection and its rendering in
every template, and the usage report after them.
-/

namespace Variants.Demo

def conditions : List String :=
  ["x86 & Debug", "Debug & x86", "x64 | ARM", "!(Win32 | ARM) & (dynamic | static)",
   "x86 | x64 | ARM", "vs2013 & !ltcg"]

def requestsOf (text : String) : List Request :=
  .evaluate (some text) ::
    Template.builtIns.map fun template => .render (.named template.name) "zlib" (some text)

def requests : List Request :=
  conditions.flatMap requestsOf ++ [.analyze]

def rule (c : Char) : String :=
  String.ofList (List.replicate 80 c)

def column (name : String) : String :=
  "  " ++ name ++ String.ofList (List.replicate (10 - name.length) ' ') ++ ": "

def linesOf : Request → Response → List String
  | .evaluate text, .selection selection =>
    ["", text.getD "", rule '-', column "canonical" ++ selection.text]
  | .render (.named name) _ _, .text rendered => [column name ++ rendered]
  | .analyze, .report report => ["", rule '='] ++ report.lines ++ [rule '=']
  | _, _ => []

def title : List String :=
  [rule '=', "PIVOT EXPRESSION DEMO", rule '=']

inductive Failure
  | registry (cause : RegistryError)
  | condition (cause : Error)

def Failure.message : Failure → String
  | registry cause => cause.message
  | condition cause => cause.message

def lines : Except Failure (List String) := do
  let engine ← (Engine.ofDefinitions Example.definitions).mapError .registry
  let responses ← ((engine.history requests).mapM Prod.fst).mapError .condition
  return title ++ ((requests.zip responses).flatMap fun (request, response) =>
    linesOf request response)

end Variants.Demo
