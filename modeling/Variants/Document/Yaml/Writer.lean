import Variants.Document.Value
import Variants.Document.Yaml.Plain

/-!
Documents as YAML text, in blocks. A text is plain where it reads back as itself, in single quotes where
only its form forbids that, and in double quotes where it holds characters that have to be escaped.
Lines break at spaces after the eightieth column.
-/

namespace Variants.Yaml

def bestWidth : Nat := 80
def bestIndent : Nat := 2

/-- The longest key that needs no mark, its tag counted. -/
def simpleKeyLimit : Nat := 127

/-- What has been written, last character first, and what the current line is like. -/
structure Pen where
  out : List Char := []
  column : Nat := 0
  afterSpace : Bool := true
  atIndent : Bool := true

namespace Pen

def put (text : List Char) (pen : Pen) : Pen :=
  { pen with out := text.reverse ++ pen.out, column := pen.column + text.length }

def lineBreak (pen : Pen) : Pen :=
  { out := '\n' :: pen.out }

def indentTo (indent : Nat) (pen : Pen) : Pen :=
  let pen :=
    if !pen.atIndent || indent < pen.column || (pen.column == indent && !pen.afterSpace) then
      pen.lineBreak
    else pen
  if pen.column < indent then
    { pen.put (List.replicate (indent - pen.column) ' ') with afterSpace := true }
  else pen

def mark (text : List Char) (needsSpace opens : Bool) (pen : Pen) : Pen :=
  let pen := pen.put (if pen.afterSpace || !needsSpace then text else ' ' :: text)
  { pen with afterSpace := false, atIndent := pen.atIndent && opens }

def inText (pen : Pen) : Pen :=
  { pen with afterSpace := false, atIndent := false }

end Pen

structure Analysis where
  multiline : Bool
  plain : Bool
  singleQuoted : Bool

def isDoubleQuotedOnly (c : Char) : Bool :=
  !(c == '\n' || (0x20 ≤ c.toNat && c.toNat ≤ 0x7E))

def anyPair (test : Char → Char → Bool) : List Char → Bool
  | c :: d :: rest => test c d || anyPair test (d :: rest)
  | _ => false

def isSpaced (next : Option Char) : Bool :=
  next.all fun c => c == ' ' || c == '\t' || c == '\n' || c == '\r' || c == '\u0085' ||
    c == '\u2028' || c == '\u2029'

def startsAsMark : List Char → Bool
  | '-' :: '-' :: '-' :: _ | '.' :: '.' :: '.' :: _ => true
  | c :: rest =>
    "#,[]\x7b\x7d&*!|>'\"%@\x60".toList.contains c ||
      ((c == '?' || c == ':' || c == '-') && isSpaced rest.head?)
  | [] => false

def holdsMark : List Char → Bool
  | c :: d :: rest =>
    (d == ':' && isSpaced rest.head?) || (d == '#' && isSpaced (some c)) || holdsMark (d :: rest)
  | _ => false

def isLineBreak (c : Char) : Bool :=
  c == '\n' || c == '\u0085' || c == '\u2028' || c == '\u2029'

def analyze (text : List Char) : Analysis :=
  let special := text.any isDoubleQuotedOnly
  let multiline := text.any isLineBreak
  let isEdge (c : Option Char) : Bool := c.any fun d => d == ' ' || isLineBreak d
  let breakSpace := anyPair (fun c d => isLineBreak c && d == ' ') text
  let spaceBreak := anyPair (fun c d => c == ' ' && isLineBreak d) text
  { multiline
    plain := !(special || multiline || isEdge text.head? || isEdge text.getLast? || breakSpace ||
      spaceBreak || startsAsMark text || holdsMark text)
    singleQuoted := !(special || breakSpace || spaceBreak) }

inductive Style
  | plain
  | single
  | double
  deriving DecidableEq

def textStyle (simpleKey : Bool) (text : List Char) : Style :=
  let analysis := analyze text
  if !text.isEmpty && plainKind text == .text && analysis.plain then .plain
  else if analysis.singleQuoted && !(simpleKey && analysis.multiline) then .single
  else .double

def pieces (text : List Char) : List (List Char) :=
  text.splitBy fun c d => c == d || (c != ' ' && d != ' ' && c != '\n' && d != '\n')

/-- A single space past the width gives way to a new line. -/
def putSpaces (indent : Nat) (mayBreak : Bool) (spaces : List Char) (pen : Pen) : Pen :=
  if mayBreak && spaces.length == 1 && bestWidth < pen.column then pen.indentTo indent
  else pen.put spaces

def writePlain (indent : Nat) (split : Bool) (text : List Char) (pen : Pen) : Pen :=
  let pen := (if pen.afterSpace then pen else pen.put [' ']).inText
  (pieces text).foldl
    (fun pen piece =>
      if piece.head? == some ' ' then (putSpaces indent split piece pen).inText else pen.put piece) pen

def doubledQuotes (text : List Char) : List Char :=
  text.flatMap fun c => if c == '\'' then ['\'', '\''] else [c]

def putBreaks (indent : Nat) (breaks : List Char) (pen : Pen) : Pen :=
  (breaks.foldl (fun pen _ => pen.lineBreak) pen.lineBreak).indentTo indent

def putSinglePieces (indent : Nat) (split first : Bool) : List (List Char) → Pen → Pen
  | [], pen => pen
  | piece :: rest, pen =>
    let pen :=
      match piece.head? with
      | some ' ' => putSpaces indent (split && !first && !rest.isEmpty) piece pen
      | some '\n' => putBreaks indent piece pen
      | _ => pen.put (doubledQuotes piece)
    putSinglePieces indent split false rest pen

def writeSingleQuoted (indent : Nat) (split : Bool) (text : List Char) (pen : Pen) : Pen :=
  (putSinglePieces indent split true (pieces text) (pen.mark ['\''] true false)).mark ['\''] false false

def escapeLetter? : Char → Option Char
  | '\x00' => some '0'
  | '\x07' => some 'a'
  | '\x08' => some 'b'
  | '\t' => some 't'
  | '\n' => some 'n'
  | '\x0b' => some 'v'
  | '\x0c' => some 'f'
  | '\r' => some 'r'
  | '\x1b' => some 'e'
  | '"' => some '"'
  | '\\' => some '\\'
  | '\u0085' => some 'N'
  | '\u00a0' => some '_'
  | '\u2028' => some 'L'
  | '\u2029' => some 'P'
  | _ => none

def isEscaped (c : Char) : Bool :=
  c == '"' || c == '\\' || !(0x20 ≤ c.toNat && c.toNat ≤ 0x7E)

def capitalHex (width : Nat) (c : Char) : List Char :=
  (hexDigits width c.toNat).map Char.toUpper

def escape (c : Char) : List Char :=
  match escapeLetter? c with
  | some letter => ['\\', letter]
  | none =>
    if c.toNat < 0x100 then '\\' :: 'x' :: capitalHex 2 c
    else if c.toNat < 0x10000 then '\\' :: 'u' :: capitalHex 4 c
    else '\\' :: 'U' :: capitalHex 8 c

/-- Ends a line inside of double quotes; a space that starts the next one is escaped. -/
def breakQuoted (indent : Nat) (pending : List Char) (next : Option Char) (pen : Pen) : Pen :=
  let pen := ((pen.put (pending ++ ['\\'])).indentTo indent).inText
  if next == some ' ' then pen.put ['\\'] else pen

def putDouble (indent : Nat) (split : Bool) (size : Nat) :
    (index : Nat) → (pending : List Char) → List Char → Pen → Pen
  | _, pending, [], pen => pen.put pending
  | index, pending, c :: rest, pen =>
    let inside := split && 0 < index && index + 1 < size
    if isEscaped c then
      let pen := (pen.put pending).put (escape c)
      let pen := if inside && bestWidth + 1 < pen.column then breakQuoted indent [] rest.head? pen else pen
      putDouble indent split size (index + 1) [] rest pen
    else if inside && (c == ' ' || pending.isEmpty) && bestWidth < pen.column + pending.length then
      putDouble indent split size (index + 1) [c] rest (breakQuoted indent pending (some c) pen)
    else putDouble indent split size (index + 1) (pending ++ [c]) rest pen

def writeDoubleQuoted (indent : Nat) (split : Bool) (text : List Char) (pen : Pen) : Pen :=
  (putDouble indent split text.length 0 [] text (pen.mark ['"'] true false)).mark ['"'] false false

def floatText (x : Binary64) : String :=
  match x.magnitude with
  | .undefined => ".nan"
  | .infinite => if x.negative then "-.inf" else ".inf"
  | .finite _ _ =>
    let digits := x.text.toList
    if digits.contains '.' then x.text
    else String.ofList (digits.takeWhile (· != 'e') ++ '.' :: '0' :: digits.dropWhile (· != 'e'))

def scalarText : Value → Option (String × ScalarKind)
  | .null => some ("null", .null)
  | .bool b => some (if b then "true" else "false", .bool)
  | .int n => some (toString n, .int)
  | .float x => some (floatText x, .float)
  | .text s => some (s, .text)
  | .date d => some (d.text, .timestamp)
  | .moment m => some (m.text, .timestamp)
  | _ => none

def tagWidth : ScalarKind → Nat
  | .null | .bool => 6
  | .float => 7
  | .timestamp => 11
  | _ => 5

def writeScalar (indent : Nat) (simpleKey : Bool) (text : List Char) (kind : ScalarKind) (pen : Pen) :
    Pen :=
  let style := if kind == .text then textStyle simpleKey text else .plain
  match style with
  | .plain => writePlain indent (!simpleKey) text pen
  | .single => writeSingleQuoted indent (!simpleKey) text pen
  | .double => writeDoubleQuoted indent (!simpleKey) text pen

def isSimpleKey (key : Value) : Bool :=
  match scalarText key with
  | some (text, kind) =>
    !text.isEmpty && !text.toList.any isLineBreak && text.length + tagWidth kind ≤ simpleKeyLimit
  | none => false

inductive Context
  | root
  | item
  | entry
  deriving DecidableEq

def deeper (indent : Option Nat) : Nat :=
  (indent.map (· + bestIndent)).getD 0

def scalarIndent (indent : Option Nat) : Nat :=
  (indent.map (· + bestIndent)).getD bestIndent

mutual

/-- A value inside a block that is indented by `indent`; bytes and sets are not written. -/
def writeValue (context : Context) (indent : Option Nat) (pen : Pen) : Value → Option Pen
  | .list items =>
    if items.isEmpty then some ((pen.mark ['['] true false).mark [']'] false false)
    else
      let inner :=
        if context = .entry && !pen.atIndent then indent.getD 0 else deeper indent
      writeItems inner pen items
  | .pair first second => do
    let inner := if context = .entry && !pen.atIndent then indent.getD 0 else deeper indent
    let pen ← writeValue .item (some inner) ((pen.indentTo inner).mark ['-'] true true) first
    writeValue .item (some inner) ((pen.indentTo inner).mark ['-'] true true) second
  | .map entries =>
    if entries.isEmpty then some ((pen.mark ['\x7b'] true false).mark ['\x7d'] false false)
    else writeEntries (deeper indent) pen entries
  | value => do
    let (text, kind) ← scalarText value
    return writeScalar (scalarIndent indent) false text.toList kind pen

def writeItems (indent : Nat) (pen : Pen) : List Value → Option Pen
  | [] => some pen
  | item :: rest => do
    let pen ← writeValue .item (some indent) ((pen.indentTo indent).mark ['-'] true true) item
    writeItems indent pen rest

def writeEntries (indent : Nat) (pen : Pen) : List (Value × Value) → Option Pen
  | [] => some pen
  | (key, item) :: rest => do
    let start := pen.indentTo indent
    let pen ←
      if isSimpleKey key then do
        let (text, kind) ← scalarText key
        let pen := writeScalar (indent + bestIndent) true text.toList kind start
        writeValue .entry (some indent) (pen.mark [':'] false false) item
      else do
        let pen ← writeValue .entry (some indent) (start.mark ['?'] true true) key
        writeValue .entry (some indent) ((pen.indentTo indent).mark [':'] true true) item
    writeEntries indent pen rest

end

def isPlainRoot (value : Value) : Bool :=
  match scalarText value with
  | some (text, kind) => kind != .text || textStyle false text.toList == .plain
  | none => false

/-- The text of a value, if all its parts can be written; a plain scalar alone is followed by a mark
that ends the document. -/
def write? (value : Value) : Option String := do
  let pen ← writeValue .root none {} value
  let pen := pen.indentTo 0
  let pen := if isPlainRoot value then (pen.mark ['.', '.', '.'] true false).indentTo 0 else pen
  return String.ofList pen.out.reverse

end Variants.Yaml
