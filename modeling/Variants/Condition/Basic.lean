import Variants.Registry

/-!
Conditions: what a text says about a build. Negation stands at the leaves only, where it means any
other choice of the same pivot.
-/

namespace Variants

inductive Condition
  | always
  | never
  | choice (pivot choice : String) (inverted : Bool)
  | and (left right : Condition)
  | or (left right : Condition)
  deriving DecidableEq, Repr

namespace Condition

def invert : Condition → Condition
  | always => never
  | never => always
  | choice pivot name inverted => choice pivot name (!inverted)
  | and left right => or left.invert right.invert
  | or left right => and left.invert right.invert

def negateIf (negated : Bool) (condition : Condition) : Condition :=
  if negated then condition.invert else condition

def connect (connective : Option Connective) (left right : Condition) : Condition :=
  match connective with
  | some .and => and left right
  | _ => or left right

/-- A word that names no choice may still be a constant, in any casing. -/
def constant? (word : String) : Option Condition :=
  if lowercase word = "true" then some always
  else if lowercase word = "false" then some never
  else none

def ofWord (registry : Registry) (word : String) : Except Error Condition :=
  match registry.resolve? word with
  | some (pivot, name) => .ok (choice pivot name false)
  | none =>
    match constant? word with
    | some condition => .ok condition
    | none => .error (.unresolvedChoice word)

mutual

def ofTerm (registry : Registry) : Term → Except Error Condition
  | .word lead word => (ofWord registry word).map (negateIf lead.negated)
  | .group lead terms => (ofTerms registry none terms).map (negateIf lead.negated)

/-- The terms from left to right, all connectives alike; `before` is what the terms so far say. -/
def ofTerms (registry : Registry) (before : Option Condition) : List Term → Except Error Condition
  | [] => .ok (before.getD always)
  | term :: rest => do
    let condition ← ofTerm registry term
    let joined :=
      match before with
      | none => condition
      | some left => connect term.lead.connective left condition
    ofTerms registry joined rest

end

/-- The condition a text states; no text, and a text without terms, always holds. -/
def parse (registry : Registry) (text : Option String) : Except Error Condition :=
  match text with
  | none => .ok always
  | some text => do ofTerms registry none (← splitTerms text)

end Condition

end Variants
