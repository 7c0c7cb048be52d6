/-!
A place in a YAML text: what is left to read, and the line and column where that starts.
-/

namespace Variants.Yaml

inductive Problem
  | unreadable
  | badValue (message : String)
  | unknownWord (word : String)
  | noCharacter
  | noMatch
  | codeTooLarge
  deriving DecidableEq, Repr

def isBreak (c : Char) : Bool :=
  c == '\n' || c == '\r' || c == '\u0085' || c == '\u2028' || c == '\u2029'

def isBlankOrBreak (c : Char) : Bool :=
  c == ' ' || c == '\t' || isBreak c

def endsWord (next : Option Char) : Bool :=
  next.all isBlankOrBreak

def endsLine (next : Option Char) : Bool :=
  next.all isBreak

def endsLineOrSpace (next : Option Char) : Bool :=
  next.all fun c => c == ' ' || isBreak c

structure Cursor where
  rest : List Char
  index : Nat := 0
  line : Nat := 0
  column : Nat := 0

namespace Cursor

def peek (c : Cursor) : Option Char :=
  c.rest.head?

def peekAt (c : Cursor) (distance : Nat) : Option Char :=
  c.rest[distance]?

def step (c : Cursor) : Cursor :=
  match c.rest with
  | [] => c
  | first :: rest =>
    let index := c.index + 1
    if isBreak first && !(first == '\r' && rest.head? == some '\n') then
      { rest, index, line := c.line + 1, column := 0 }
    else if first == '\uFEFF' then { c with rest, index }
    else { c with rest, index, column := c.column + 1 }

def forward : Nat → Cursor → Cursor
  | 0, c => c
  | n + 1, c => forward n c.step

def takeWhile (c : Cursor) (test : Char → Bool) : List Char × Cursor :=
  let taken := c.rest.takeWhile test
  (taken, c.forward taken.length)

def skipWhile (c : Cursor) (test : Char → Bool) : Cursor :=
  (c.takeWhile test).2

def skipSpaces (c : Cursor) : Cursor :=
  c.skipWhile (· == ' ')

def skipComment (c : Cursor) : Cursor :=
  if c.peek == some '#' then c.skipWhile (!isBreak ·) else c

/-- The line break at a place, if there is one. All but the two separators of Unicode count as the
line feed. -/
def lineBreak (c : Cursor) : List Char × Cursor :=
  match c.rest with
  | '\r' :: '\n' :: _ => (['\n'], c.forward 2)
  | first :: _ =>
    if first == '\u2028' || first == '\u2029' then ([first], c.step)
    else if isBreak first then (['\n'], c.step)
    else ([], c)
  | [] => ([], c)

def atSeparator (c : Cursor) : Bool :=
  match c.rest with
  | '-' :: '-' :: '-' :: rest | '.' :: '.' :: '.' :: rest => endsWord rest.head?
  | _ => false

def finishLine (c : Cursor) : Except Problem Cursor :=
  let c := c.skipSpaces.skipComment
  if endsLine c.peek then .ok c.lineBreak.2 else .error .unreadable

end Cursor

end Variants.Yaml
