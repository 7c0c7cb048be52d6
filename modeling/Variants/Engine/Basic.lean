import Variants.Engine.Cache
import Variants.Engine.Usage
import Variants.Selection.Evaluation
import Variants.Template.Rendering

/-!
The engine: one registry with what its conditions have shown so far. The first text of every selection
is remembered and is what any text with that selection renders as, so texts that say the same render
the same.
-/

namespace Variants

structure CacheKey (Custom : Type := Empty) where
  scope : String
  selection : Selection
  template : Template Custom
  deriving DecidableEq, Repr

structure Engine (Custom : Type := Empty) where
  registry : Registry
  spellings : List (Selection × String) := []
  cache : Cache (CacheKey Custom) := {}
  usage : Usage := {}
  deriving Repr

inductive TemplateRef (Custom : Type := Empty)
  | named (name : String)
  | custom (template : Template Custom)
  deriving DecidableEq, Repr

variable {Custom : Type}

def TemplateRef.resolve : TemplateRef Custom → Except Error (Template Custom)
  | named name =>
    match Template.named? name with
    | some template => .ok template
    | none => .error (.unknownTemplate name)
  | custom template => .ok template

namespace Engine

def ofDefinitions (definitions : List PivotDefinition) (Custom : Type := Empty) :
    Except RegistryError (Engine Custom) := do
  return { registry := ← Registry.build definitions }

def remember (engine : Engine Custom) (selection : Selection) (text : String) : Engine Custom :=
  if (engine.spellings.lookup selection).isSome then engine
  else { engine with spellings := engine.spellings ++ [(selection, text)] }

def spelling? (engine : Engine Custom) (selection : Selection) : Option String :=
  engine.spellings.lookup selection

def report (engine : Engine Custom) (marks : List Mark) : Engine Custom :=
  { engine with usage := engine.usage.markAll marks }

def parse (engine : Engine Custom) (text : Option String) : Except Error Condition :=
  Condition.parse engine.registry text

/-- The selection of a text, which is remembered unless it is empty. -/
def evaluate (engine : Engine Custom) (text : Option String) :
    Except Error Selection × Engine Custom :=
  match engine.parse text with
  | .error e => (.error e, engine)
  | .ok condition =>
    let evaluated := condition.evaluate engine.registry
    let engine := engine.report evaluated.marks
    match evaluated.result, text with
    | .error e, _ => (.error e, engine)
    | .ok selection, none | .ok selection, some "" => (.ok selection, engine)
    | .ok selection, some text => (.ok selection, engine.remember selection text)

def normalize (engine : Engine Custom) (text : Option String) :
    Except Error String × Engine Custom :=
  match text with
  | none | some "" => (.ok "", engine)
  | some text =>
    match engine.evaluate (some text) with
    | (.error e, engine) => (.error e, engine)
    | (.ok selection, engine) => (.ok ((engine.spelling? selection).getD text), engine)

variable [DecidableEq Custom] [AtomWriter Custom]

def renderWith (engine : Engine Custom) (template : Template Custom) (scope : String)
    (text : Option String) : Except Error String × Engine Custom :=
  match text with
  | none | some "" => (.ok "", engine)
  | some text =>
    match engine.evaluate (some text) with
    | (.error e, engine) => (.error e, engine)
    | (.ok selection, engine) =>
      let spelling := (engine.spelling? selection).getD text
      let (rendered, cache) := engine.cache.fetch ⟨scope, selection, template⟩ fun _ =>
        Variants.render engine.registry template scope (some spelling)
      (rendered.result, { engine with cache }.report rendered.marks)

def render (engine : Engine Custom) (template : TemplateRef Custom) (scope : String)
    (text : Option String) : Except Error String × Engine Custom :=
  match template.resolve with
  | .error e => (.error e, engine)
  | .ok template => engine.renderWith template scope text

end Engine

end Variants
