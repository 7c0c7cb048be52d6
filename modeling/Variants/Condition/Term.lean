import Variants.Condition.Token

/-!
Terms of a condition. A level of a text is a row of operands, each joined to what stands before it;
a parenthesised operand holds a level of its own. The arranger reads one token at a time, keeps the
levels it is inside of, and refuses a token as soon as no continuation could be right.
-/

namespace Variants

inductive Connective
  | and
  | or
  deriving DecidableEq, Repr

/-- How an operand is joined to the operands before it, and where it stands. -/
structure Lead where
  connective : Option Connective
  negated : Bool
  position : Nat
  deriving DecidableEq, Repr

inductive Term
  | word (lead : Lead) (text : String)
  | group (lead : Lead) (terms : List Term)
  deriving Repr

namespace Term

def lead : Term → Lead
  | word lead _ => lead
  | group lead _ => lead

end Term

inductive Fault
  | unbalancedClosing
  | unbalancedOpening
  | invalidCharacter
  | leadingOperator
  | doubledOperator
  | missingOperator
  | trailingOperator
  | danglingNot
  deriving DecidableEq, Repr

def Fault.message : Fault → String
  | unbalancedClosing => "Unbalanced ')'"
  | unbalancedOpening => "Unbalanced '('"
  | invalidCharacter => "Invalid character in expression"
  | leadingOperator => "Expression may not start with an operator"
  | doubledOperator => "May not state two operators in a row"
  | missingOperator => "Terms must be separated by an operator"
  | trailingOperator => "Expression may not end with an operator"
  | danglingNot => "'!' must be followed by a term"

structure Flaw where
  fault : Fault
  position : Option Nat
  deriving DecidableEq, Repr

/-- One level: the terms read so far, and what waits for the next operand. -/
structure Level where
  terms : List Term := []
  connective : Option Connective := none
  negated : Bool := false
  lastNot : Option Nat := none
  deriving Repr

namespace Level

def awaitsOperator (level : Level) : Bool :=
  !level.terms.isEmpty && level.connective.isNone

def push (level : Level) (make : Lead → Term) (position : Nat) : Level :=
  { terms := level.terms ++ [make ⟨level.connective, level.negated, position⟩] }

def connect (level : Level) (connective : Connective) (position : Nat) : Except Flaw Level :=
  if level.terms.isEmpty then .error ⟨.leadingOperator, some position⟩
  else if level.connective.isSome || level.lastNot.isSome then
    .error ⟨.doubledOperator, some position⟩
  else .ok { level with connective := some connective }

/-- An odd run of `!` turns the negation over. -/
def negate (level : Level) (run position : Nat) : Level :=
  { level with negated := level.negated != (run % 2 == 1), lastNot := some position }

def close (level : Level) : Except Flaw (List Term) :=
  match level.lastNot with
  | some position => .error ⟨.danglingNot, some position⟩
  | none =>
    if level.connective.isSome then .error ⟨.trailingOperator, none⟩ else .ok level.terms

end Level

/-- The innermost level, and outwards from it each enclosing level with the place where the
parenthesis inside it was opened. -/
structure Arranger where
  level : Level := {}
  outer : List (Level × Nat) := []
  deriving Repr

namespace Arranger

def atOperand (state : Arranger) (position : Nat) (next : Arranger) : Except Flaw Arranger :=
  if state.level.awaitsOperator then .error ⟨.missingOperator, some position⟩ else .ok next

def step (state : Arranger) (token : Token) : Except Flaw Arranger :=
  let position := token.position
  match token.kind with
  | .closing =>
    match state.outer with
    | [] => .error ⟨.unbalancedClosing, some position⟩
    | (enclosing, opened) :: outer => do
      let terms ← state.level.close
      return ⟨enclosing.push (.group · terms) opened, outer⟩
  | .invalid => .error ⟨.invalidCharacter, some position⟩
  | .and => do return { state with level := ← state.level.connect .and position }
  | .or => do return { state with level := ← state.level.connect .or position }
  | .not =>
    state.atOperand position { state with level := state.level.negate token.text.length position }
  | .opening => state.atOperand position ⟨{}, (state.level, position) :: state.outer⟩
  | .word =>
    state.atOperand position { state with level := state.level.push (.word · token.text) position }

def finish (state : Arranger) : Except Flaw (List Term) := do
  let terms ← state.level.close
  match state.outer with
  | [] => return terms
  | (_, opened) :: _ => .error ⟨.unbalancedOpening, some opened⟩

end Arranger

def arrange (tokens : List Token) : Except Flaw (List Term) := do
  (← tokens.foldlM Arranger.step {}).finish

end Variants
