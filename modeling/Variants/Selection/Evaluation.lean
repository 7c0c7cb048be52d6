import Variants.Condition.Basic
import Variants.Selection.Join
import Variants.Selection.Minimal
import Variants.Traced

/-!
Evaluation: the selection that a condition stands for. Both sides of a connective are always evaluated,
so every leaf is reported; constants absorb or vanish, and every other result is made minimal.
-/

namespace Variants

namespace Selection

/-- The variants in which a pivot has a choice, or any other choice. -/
def ofChoice (registry : Registry) (pivot choice : String) (inverted : Bool) :
    Except Error Selection := do
  let chosen ←
    if inverted then (registry.choices pivot).map (·.filter (· != choice)) else pure [choice]
  (Combinations.ofChoices pivot chosen).simplify registry

def both (registry : Registry) (left right : Selection) : Except Error Selection :=
  if left = constant false ∨ right = constant true then .ok left
  else if right = constant false ∨ left = constant true then .ok right
  else (left.toCombinations.intersect right.toCombinations).simplify registry

def either (registry : Registry) (left right : Selection) : Except Error Selection :=
  if left = constant true ∨ right = constant false then .ok left
  else if right = constant true ∨ left = constant false then .ok right
  else do (← left.toCombinations.union registry right.toCombinations).simplify registry

end Selection

namespace Condition

def evaluate (registry : Registry) : Condition → Traced Error Selection
  | always => pure (.constant true)
  | never => pure (.constant false)
  | choice pivot name inverted => do
    Traced.mark pivot name
    Traced.ofExcept (Selection.ofChoice registry pivot name inverted)
  | and left right => do
    let first ← left.evaluate registry
    let second ← right.evaluate registry
    Traced.ofExcept (Selection.both registry first second)
  | or left right => do
    let first ← left.evaluate registry
    let second ← right.evaluate registry
    Traced.ofExcept (Selection.either registry first second)

end Condition

end Variants
