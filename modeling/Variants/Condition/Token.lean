import Variants.Text.Blank

/-!
Tokens of a condition. The text is cut where the kind of character changes, the runs of blanks fall
away, and every other run is a token that remembers where it stood.
-/

namespace Variants

inductive TokenKind
  | and
  | or
  | not
  | opening
  | closing
  | word
  | invalid
  deriving DecidableEq, Repr

structure Token where
  kind : TokenKind
  text : String
  position : Nat
  deriving DecidableEq, Repr

namespace TokenKind

/-- Neighbouring characters of such a kind make one token. -/
def runs : TokenKind → Bool
  | and | or | not | word => true
  | opening | closing | invalid => false

def isWordChar (c : Char) : Bool :=
  c.isAlphanum || c == '_'

def ofChar? (c : Char) : Option TokenKind :=
  if isBlank c then none
  else if c = '&' ∨ c = '\\' ∨ c = ',' ∨ c = '/' then some and
  else if c = '|' ∨ c = '+' then some or
  else if c = '!' then some not
  else if c = '(' then some opening
  else if c = ')' then some closing
  else if isWordChar c then some word
  else some invalid

def joins (c d : Char) : Bool :=
  ofChar? c == ofChar? d && (ofChar? c).all runs

end TokenKind

namespace Token

def ofRuns (position : Nat) : List (List Char) → List Token
  | [] => []
  | run :: rest =>
    match run.head?.bind TokenKind.ofChar? with
    | none => ofRuns (position + run.length) rest
    | some kind => ⟨kind, String.ofList run, position⟩ :: ofRuns (position + run.length) rest

end Token

def tokenize (text : String) : List Token :=
  Token.ofRuns 0 (text.toList.splitBy TokenKind.joins)

end Variants
