import Variants.Condition.Basic
import Variants.Template.Basic
import Variants.Traced

/-!
Rendering: a condition's text in the syntax of a template. The writer's order and grouping stay; every
choice is written by its own name, and a group without terms as the constant it stands for.
-/

namespace Variants

variable {Custom : Type}

namespace Template

def joint (template : Template Custom) (lead : Lead) : String :=
  match lead.connective, lead.negated with
  | some .and, false => template.and
  | some .and, true => template.andNot
  | _, false => template.or
  | _, true => template.orNot

def opening (template : Template Custom) (lead : Lead) : String :=
  if lead.negated then template.not else ""

def grouped (template : Template Custom) (inner : String) : Except Error String :=
  (fillPattern template.group inner).mapError .pattern

end Template

def isConstantWord (word : String) : Bool :=
  ["true", "false"].contains (lowercase word)

variable [AtomWriter Custom]

def renderWord (registry : Registry) (template : Template Custom) (scope word : String) :
    Traced Error String :=
  match registry.resolve? word with
  | none =>
    Traced.ofExcept <|
      if isConstantWord word then .ok (lowercase word) else .error (.unresolvedChoice word)
  | some (name, choice) => do
    Traced.mark name choice
    let pivot ← Traced.ofExcept (registry.lookup name)
    Traced.ofExcept (template.atom.text scope choice pivot)

mutual

def renderTerm (registry : Registry) (template : Template Custom) (scope : String) :
    Term → Traced Error String
  | .word _ word => renderWord registry template scope word
  | .group _ terms =>
    if terms.isEmpty then pure "true"
    else do
      let inner ← renderTerms registry template scope true terms
      Traced.ofExcept (template.grouped inner)

def renderTerms (registry : Registry) (template : Template Custom) (scope : String) (first : Bool) :
    List Term → Traced Error String
  | [] => pure ""
  | term :: rest => do
    let text ← renderTerm registry template scope term
    let before := if first then template.opening term.lead else template.joint term.lead
    let after ← renderTerms registry template scope false rest
    return before ++ text ++ after

end

/-- A text in the syntax of a template; no text and the empty text render as nothing. -/
def render (registry : Registry) (template : Template Custom) (scope : String) (text : Option String) :
    Traced Error String :=
  match text with
  | none | some "" => pure ""
  | some text => do
    renderTerms registry template scope true (← Traced.ofExcept (splitTerms text))

end Variants
