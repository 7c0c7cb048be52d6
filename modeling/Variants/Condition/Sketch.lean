import Variants.Selection.Evaluation

/-!
Sketches: trees handed over from outside, in which a node may be of no known kind. A sketch without
such a node is a condition; one with it fails at the first leaf from the left that cannot be evaluated.
-/

namespace Variants

inductive Sketch
  | always
  | never
  | choice (pivot choice : String) (inverted : Bool)
  | and (left right : Sketch)
  | or (left right : Sketch)
  | foreign
  deriving Repr, Inhabited

inductive SketchError
  | foreign
  | condition (cause : Error)
  deriving DecidableEq, Repr

namespace Sketch

def condition? : Sketch → Option Condition
  | always => some .always
  | never => some .never
  | choice pivot name inverted => some (.choice pivot name inverted)
  | and left right => do return .and (← left.condition?) (← right.condition?)
  | or left right => do return .or (← left.condition?) (← right.condition?)
  | foreign => none

def invert (sketch : Sketch) : Except SketchError Condition :=
  match sketch.condition? with
  | some condition => .ok condition.invert
  | none => .error .foreign

def fault? (registry : Registry) : Sketch → Option SketchError
  | always | never => none
  | choice pivot _ _ =>
    if (registry.get? pivot).isSome then none else some (.condition (.unknownPivot pivot))
  | and left right | or left right => (left.fault? registry).or (right.fault? registry)
  | foreign => some .foreign

def evaluate (registry : Registry) (sketch : Sketch) : Traced SketchError Selection :=
  match sketch.condition? with
  | some condition =>
    let evaluated := condition.evaluate registry
    ⟨evaluated.marks, evaluated.result.mapError .condition⟩
  | none => ⟨[], .error ((sketch.fault? registry).getD .foreign)⟩

end Sketch

end Variants
