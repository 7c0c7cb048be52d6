import Variants.Document.Yaml.Cursor
import Variants.Text.Hex

/-!
The three ways of writing a scalar in YAML: plain, in quotes, and as a block of lines. Where lines are
folded, one line break between two lines of text reads as a space.
-/

namespace Variants.Yaml

/-- Lines folded after a first break: `first` stays where it is no line feed, and vanishes before
further breaks. -/
def folded (first breaks : List Char) : List Char :=
  if first ≠ ['\n'] then first ++ breaks else if breaks.isEmpty then [' '] else breaks

def isFlowIndicator (c : Char) : Bool :=
  c == ',' || c == '[' || c == ']' || c == '\x7b' || c == '\x7d'

def plainRun (flow : Bool) : List Char → Nat
  | [] => 0
  | c :: rest =>
    let next := rest.head?
    if isBlankOrBreak c || (c == ':' && (endsWord next || (flow && next.any isFlowIndicator))) ||
        (flow && (c == '?' || isFlowIndicator c)) then 0
    else plainRun flow rest + 1

def plainBreaks : (fuel : Nat) → Cursor → Option (List Char) × Cursor
  | 0, c => (some [], c)
  | fuel + 1, c =>
    if c.peek == some ' ' then plainBreaks fuel c.step
    else
      match c.lineBreak with
      | ([], _) => (some [], c)
      | (br, after) =>
        if after.atSeparator then (none, after)
        else
          let (breaks, rest) := plainBreaks fuel after
          (breaks.map (br ++ ·), rest)

/-- What stands for the blanks between two plain runs, and whether they hold a line break. -/
def plainGap (c : Cursor) : List Char × Bool × Cursor :=
  let (blanks, c) := c.takeWhile (· == ' ')
  match c.lineBreak with
  | ([], _) => (blanks, false, c)
  | (first, after) =>
    if after.atSeparator then ([], true, after)
    else
      match plainBreaks after.rest.length after with
      | (none, rest) => ([], true, rest)
      | (some breaks, rest) => (folded first breaks, true, rest)

structure PlainScalar where
  text : List Char
  endsAtBreak : Bool
  after : Cursor

/-- A plain scalar; outside of brackets its further lines start at the column `indent` or after. -/
def plainScalar (flow : Bool) (indent : Int) : (fuel : Nat) → (gap : List Char) → Cursor → PlainScalar
  | 0, _, c => ⟨[], false, c⟩
  | fuel + 1, gap, c =>
    let run := if c.peek == some '#' then 0 else plainRun flow c.rest
    if run = 0 then ⟨[], false, c⟩
    else
      let text := gap ++ c.rest.take run
      let (next, broken, after) := plainGap (c.forward run)
      if next.isEmpty || after.peek == some '#' || (!flow && after.column < indent) then
        ⟨text, broken, after⟩
      else
        let more := plainScalar flow indent fuel next after
        ⟨text ++ more.text, if more.text.isEmpty then broken else more.endsAtBreak, more.after⟩

def escapeReplacement? : Char → Option Char
  | '0' => some '\x00'
  | 'a' => some '\x07'
  | 'b' => some '\x08'
  | 't' | '\t' => some '\t'
  | 'n' => some '\n'
  | 'v' => some '\x0b'
  | 'f' => some '\x0c'
  | 'r' => some '\r'
  | 'e' => some '\x1b'
  | ' ' => some ' '
  | '"' => some '"'
  | '\\' => some '\\'
  | '/' => some '/'
  | 'N' => some '\u0085'
  | '_' => some '\u00a0'
  | 'L' => some '\u2028'
  | 'P' => some '\u2029'
  | _ => none

def escapeWidth? : Char → Option Nat
  | 'x' => some 2
  | 'u' => some 4
  | 'U' => some 8
  | _ => none

def codePoint (code : Nat) : Except Problem Char :=
  if code < 0x110000 then .ok (Char.ofNat code)
  else if code < 0x80000000 then .error (.badValue "chr() arg not in range(0x110000)")
  else .error .codeTooLarge

def quotedBreaks : (fuel : Nat) → Cursor → Except Problem (List Char × Cursor)
  | 0, c => .ok ([], c)
  | fuel + 1, c =>
    if c.atSeparator then .error .unreadable
    else
      let c := c.skipWhile fun d => d == ' ' || d == '\t'
      match c.lineBreak with
      | ([], _) => .ok ([], c)
      | (br, after) => do
        let (breaks, rest) ← quotedBreaks fuel after
        return (br ++ breaks, rest)

def quotedGap (c : Cursor) : Except Problem (List Char × Cursor) := do
  let (blanks, c) := c.takeWhile fun d => d == ' ' || d == '\t'
  if c.rest.isEmpty then throw .unreadable
  match c.lineBreak with
  | ([], _) => return (blanks, c)
  | (first, after) =>
    let (breaks, rest) ← quotedBreaks after.rest.length after
    return (folded first breaks, rest)

def escaped (c : Cursor) : Except Problem (List Char × Cursor) := do
  let some mark := c.peek | throw .unreadable
  match escapeReplacement? mark, escapeWidth? mark with
  | some replacement, _ => return ([replacement], c.step)
  | none, some width =>
    let digits := c.step.rest.take width
    match hexNumber? digits with
    | some code =>
      if digits.length < width then throw .unreadable
      return ([← codePoint code], c.forward (width + 1))
    | none => throw .unreadable
  | none, none =>
    match c.lineBreak with
    | ([], _) => throw .unreadable
    | (_, after) => quotedBreaks after.rest.length after

def quotedScalar (double : Bool) : (fuel : Nat) → Cursor → Except Problem (List Char × Cursor)
  | 0, _ => .error .unreadable
  | fuel + 1, c => do
    let some first := c.peek | throw .unreadable
    if !double && first == '\'' && c.peekAt 1 != some '\'' then return ([], c.step)
    if double && first == '"' then return ([], c.step)
    let (piece, after) ←
      if !double && first == '\'' then pure (['\''], c.forward 2)
      else if double && first == '\\' then escaped c.step
      else if isBlankOrBreak first then quotedGap c
      else pure ([first], c.step)
    let (text, rest) ← quotedScalar double fuel after
    return (piece ++ text, rest)

/-- What becomes of the breaks at the end of a block: all are dropped, one is kept, or all are kept. -/
inductive Chomping
  | strip
  | clip
  | keep
  deriving DecidableEq

structure BlockHeader where
  chomping : Chomping := .clip
  increment : Option Nat := none

def chompingMark? : Option Char → Option Chomping
  | some '+' => some .keep
  | some '-' => some .strip
  | _ => none

def increment (c : Cursor) : Except Problem (Option Nat × Cursor) :=
  match c.peek with
  | some d =>
    if d == '0' then .error .unreadable
    else if d.isDigit then .ok (some (d.toNat - 48), c.step)
    else .ok (none, c)
  | none => .ok (none, c)

def blockHeader (c : Cursor) : Except Problem (BlockHeader × Cursor) := do
  let (header, c) ←
    match chompingMark? c.peek with
    | some chomping => do
      let (increment, after) ← increment c.step
      pure ({ chomping, increment : BlockHeader }, after)
    | none => do
      let (increment, after) ← increment c
      match increment, chompingMark? after.peek with
      | some _, some chomping => pure ({ chomping, increment : BlockHeader }, after.step)
      | _, _ => pure ({ increment : BlockHeader }, after)
  if endsLineOrSpace c.peek then return (header, ← c.finishLine) else throw .unreadable

def blockIndentation : (fuel widest : Nat) → Cursor → List Char × Nat × Cursor
  | 0, widest, c => ([], widest, c)
  | fuel + 1, widest, c =>
    if c.peek == some ' ' then
      let after := c.step
      blockIndentation fuel (max widest after.column) after
    else
      match c.lineBreak with
      | ([], _) => ([], widest, c)
      | (br, after) =>
        let (breaks, widest, rest) := blockIndentation fuel widest after
        (br ++ breaks, widest, rest)

def skipIndent (indent : Nat) (c : Cursor) : Cursor :=
  c.forward ((c.rest.take (indent - c.column)).takeWhile (· == ' ')).length

def blockBreaks (indent : Nat) : (fuel : Nat) → Cursor → List Char × Cursor
  | 0, c => ([], c)
  | fuel + 1, c =>
    let c := skipIndent indent c
    match c.lineBreak with
    | ([], _) => ([], c)
    | (br, after) =>
      let (breaks, rest) := blockBreaks indent fuel after
      (br ++ breaks, rest)

def startsText (c : Cursor) : Bool :=
  c.peek.all fun d => d != ' ' && d != '\t'

/-- The lines of a block after the given breaks; in a folded block a single break between lines that
start with text is a space. -/
def blockLines (fold : Bool) (chomping : Chomping) (indent : Nat) :
    (fuel : Nat) → (breaks : List Char) → Cursor → List Char × Cursor
  | 0, _, c => ([], c)
  | fuel + 1, breaks, c =>
    let (line, atBreak) := c.takeWhile (!isBreak ·)
    let (br, after) := atBreak.lineBreak
    let (next, after) := blockBreaks indent after.rest.length after
    if after.column = indent && !after.rest.isEmpty then
      let joint :=
        if fold && br == ['\n'] && startsText c && startsText after then
          if next.isEmpty then [' '] else []
        else br
      let (text, rest) := blockLines fold chomping indent fuel next after
      (breaks ++ line ++ joint ++ text, rest)
    else
      let tail :=
        match chomping with
        | .strip => []
        | .clip => br
        | .keep => br ++ next
      (breaks ++ line ++ tail, after)

def blockScalar (fold : Bool) (outer : Int) (c : Cursor) : Except Problem (List Char × Cursor) := do
  let (header, c) ← blockHeader c
  let least := max 1 (outer + 1).toNat
  let (breaks, indent, c) :=
    match header.increment with
    | none =>
      let (breaks, widest, c) := blockIndentation c.rest.length 0 c
      (breaks, max least widest, c)
    | some increment =>
      let indent := least + increment - 1
      let (breaks, c) := blockBreaks indent c.rest.length c
      (breaks, indent, c)
  if c.column = indent && !c.rest.isEmpty then
    return blockLines fold header.chomping indent (c.rest.length + 1) breaks c
  else
    return (if header.chomping = .keep then breaks else [], c)

end Variants.Yaml
