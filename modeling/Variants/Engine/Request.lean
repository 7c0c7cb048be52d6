import Variants.Report

/-!
What an engine is asked, and what it answers. An answer may depend on the requests before it, by the
spellings that the engine remembers.
-/

namespace Variants

inductive Request (Custom : Type := Empty)
  | parse (text : Option String)
  | evaluate (text : Option String)
  | normalize (text : Option String)
  | render (template : TemplateRef Custom) (scope : String) (text : Option String)
  | analyze
  deriving DecidableEq, Repr

variable {Custom : Type}

namespace Request

def buildCondition (scope : String) (text : Option String) : Request Custom :=
  render (.custom .buildCondition) scope text

def label (text : Option String) : Request Custom :=
  render (.custom .label) "" text

def path (scope : String) (text : Option String) : Request Custom :=
  render (.custom .path) scope text

def filename (scope : String) (text : Option String) : Request Custom :=
  render (.custom .filename) scope text

end Request

inductive Response
  | condition (condition : Condition)
  | selection (selection : Selection)
  | text (text : String)
  | report (report : Report)
  deriving DecidableEq, Repr

namespace Engine

variable [DecidableEq Custom] [AtomWriter Custom]

def perform (engine : Engine Custom) : Request Custom → Except Error Response × Engine Custom
  | .parse text => ((engine.parse text).map .condition, engine)
  | .evaluate text =>
    let (selection, after) := engine.evaluate text
    (selection.map .selection, after)
  | .normalize text =>
    let (spelling, after) := engine.normalize text
    (spelling.map .text, after)
  | .render template scope text =>
    let (rendered, after) := engine.render template scope text
    (rendered.map .text, after)
  | .analyze => (.ok (.report engine.analyze), engine)

/-- The answers to requests in a row, each with the engine after it. -/
def history (engine : Engine Custom) :
    List (Request Custom) → List (Except Error Response × Engine Custom)
  | [] => []
  | request :: rest =>
    let answered := engine.perform request
    answered :: answered.2.history rest

end Engine

end Variants
