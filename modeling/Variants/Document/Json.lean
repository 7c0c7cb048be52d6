import Variants.Document.Value

/-!
Documents as JSON text. The text is cut into lexemes, which are arranged by a stack of open lists and
mappings; of entries with one name the last item stands at the first place. Three words stand for the
numbers without digits.
-/

namespace Variants.Json

inductive Lexeme
  | openList
  | closeList
  | openMap
  | closeMap
  | colon
  | comma
  | scalar (value : Value)

def isSpace (c : Char) : Bool :=
  c == ' ' || c == '\t' || c == '\n' || c == '\r'

def body : List Char → Option (List Char × List Char)
  | [] => none
  | '"' :: rest => some ([], rest)
  | '\\' :: c :: rest => (body rest).map fun (raw, after) => ('\\' :: c :: raw, after)
  | c :: rest => if c.toNat < 0x20 then none else (body rest).map fun (raw, after) => (c :: raw, after)

def simpleEscape? : Char → Option Char
  | '"' => some '"'
  | '\\' => some '\\'
  | '/' => some '/'
  | 'b' => some '\x08'
  | 'f' => some '\x0c'
  | 'n' => some '\n'
  | 'r' => some '\r'
  | 't' => some '\t'
  | _ => none

/-- The numbers of the characters of a raw text, in which a character above `\uFFFF` may be written as
two halves. -/
def units : List Char → Option (List Nat)
  | [] => some []
  | '\\' :: 'u' :: a :: b :: c :: d :: rest => do
    let unit ← hexNumber? [a, b, c, d]
    return unit :: (← units rest)
  | '\\' :: c :: rest => do
    let escaped ← simpleEscape? c
    return escaped.toNat :: (← units rest)
  | c :: rest => do return c.toNat :: (← units rest)

def joinHalves : List Nat → List Char
  | [] => []
  | [unit] => [Char.ofNat unit]
  | high :: low :: rest =>
    if 0xD800 ≤ high ∧ high < 0xDC00 ∧ 0xDC00 ≤ low ∧ low < 0xE000 then
      Char.ofNat (0x10000 + (high - 0xD800) * 0x400 + (low - 0xDC00)) :: joinHalves rest
    else Char.ofNat high :: joinHalves (low :: rest)

def unescape? (raw : List Char) : Option String :=
  (units raw).map fun us => String.ofList (joinHalves us)

def digitsValue (digits : List Char) : Nat :=
  digits.foldl (fun n c => 10 * n + (c.toNat - 48)) 0

def fraction : List Char → List Char × List Char
  | '.' :: rest =>
    match rest.takeWhile Char.isDigit with
    | [] => ([], '.' :: rest)
    | digits => (digits, rest.dropWhile Char.isDigit)
  | rest => ([], rest)

def exponent (text : List Char) : Option Int × List Char :=
  match text with
  | mark :: rest =>
    if mark = 'e' ∨ mark = 'E' then
      let (negative, unsigned) :=
        match rest with
        | '-' :: unsigned => (true, unsigned)
        | '+' :: unsigned => (false, unsigned)
        | _ => (false, rest)
      match unsigned.takeWhile Char.isDigit with
      | [] => (none, text)
      | digits =>
        let size : Int := digitsValue digits
        (some (if negative then -size else size), unsigned.dropWhile Char.isDigit)
    else (none, text)
  | [] => (none, text)

def number? (negative : Bool) (text : List Char) : Option (Value × List Char) :=
  let (whole, rest) :=
    match text with
    | '0' :: rest => (['0'], rest)
    | _ => (text.takeWhile Char.isDigit, text.dropWhile Char.isDigit)
  if whole.isEmpty then none
  else
    let (places, rest) := fraction rest
    let (shift, rest) := exponent rest
    if places.isEmpty ∧ shift.isNone then
      let size : Int := digitsValue whole
      some (.int (if negative then -size else size), rest)
    else
      some (.float (.ofDecimal negative (digitsValue (whole ++ places))
        (shift.getD 0 - places.length)), rest)

def words : List (String × Value) :=
  [("null", .null), ("true", .bool true), ("false", .bool false), ("NaN", .float .undefined),
   ("Infinity", .float (.infinity false)), ("-Infinity", .float (.infinity true))]

def word? (text : List Char) : Option (Value × List Char) :=
  words.findSome? fun (word, value) =>
    if word.toList.isPrefixOf text then some (value, text.drop word.length) else none

def lexeme? (text : List Char) : Option (Lexeme × List Char) :=
  match text with
  | '[' :: rest => some (.openList, rest)
  | ']' :: rest => some (.closeList, rest)
  | '\x7b' :: rest => some (.openMap, rest)
  | '\x7d' :: rest => some (.closeMap, rest)
  | ':' :: rest => some (.colon, rest)
  | ',' :: rest => some (.comma, rest)
  | '"' :: rest => do
    let (raw, after) ← body rest
    return (.scalar (.text (← unescape? raw)), after)
  | _ =>
    match word? text with
    | some (value, rest) => some (.scalar value, rest)
    | none =>
      match text with
      | '-' :: rest => (number? true rest).map fun (value, after) => (.scalar value, after)
      | _ => (number? false text).map fun (value, after) => (.scalar value, after)

/-- The lexemes of a text; each takes at least one character, so `fuel` need not exceed the length. -/
def lexFrom : (fuel : Nat) → List Char → Option (List Lexeme)
  | _, [] => some []
  | 0, _ => none
  | fuel + 1, c :: rest =>
    if isSpace c then lexFrom fuel rest
    else do
      let (first, after) ← lexeme? (c :: rest)
      return first :: (← lexFrom fuel after)

def lex (text : List Char) : Option (List Lexeme) :=
  lexFrom text.length text

/-- An open list or mapping; items are kept last first. -/
inductive Frame
  | list (items : List Value)
  | map (entries : List (Value × Value))
  | entry (entries : List (Value × Value)) (key : Value)

inductive Expecting
  | value
  | valueOrEnd
  | keyOrEnd
  | key
  | colon
  | commaOrEnd
  | nothing

structure Reader where
  frames : List Frame := []
  expecting : Expecting := .value
  result : Value := .null

namespace Reader

def complete (value : Value) : List Frame → Option Reader
  | [] => some ⟨[], .nothing, value⟩
  | .list items :: outer => some { frames := .list (value :: items) :: outer, expecting := .commaOrEnd }
  | .entry entries key :: outer =>
    some { frames := .map ((key, value) :: entries) :: outer, expecting := .commaOrEnd }
  | .map _ :: _ => none

def step (state : Reader) (lexeme : Lexeme) : Option Reader :=
  match state.expecting, lexeme, state.frames with
  | .value, .scalar value, frames | .valueOrEnd, .scalar value, frames => complete value frames
  | .value, .openList, frames | .valueOrEnd, .openList, frames =>
    some { frames := .list [] :: frames, expecting := .valueOrEnd }
  | .value, .openMap, frames | .valueOrEnd, .openMap, frames =>
    some { frames := .map [] :: frames, expecting := .keyOrEnd }
  | .valueOrEnd, .closeList, .list _ :: outer => complete (.list []) outer
  | .commaOrEnd, .closeList, .list items :: outer => complete (.list items.reverse) outer
  | .commaOrEnd, .comma, .list items :: outer =>
    some { frames := .list items :: outer, expecting := .value }
  | .keyOrEnd, .closeMap, .map _ :: outer => complete (.map []) outer
  | .commaOrEnd, .closeMap, .map entries :: outer =>
    complete (.map (Entries.ofList entries.reverse)) outer
  | .commaOrEnd, .comma, .map entries :: outer =>
    some { frames := .map entries :: outer, expecting := .key }
  | .key, .scalar (.text key), .map entries :: outer
  | .keyOrEnd, .scalar (.text key), .map entries :: outer =>
    some { frames := .entry entries (.text key) :: outer, expecting := .colon }
  | .colon, .colon, frames => some { frames, expecting := .value }
  | _, _, _ => none

end Reader

def read? (text : String) : Option Value := do
  let lexemes ← lex text.toList
  let state ← lexemes.foldlM Reader.step {}
  match state.expecting with
  | .nothing => some state.result
  | _ => none

def escapedUnit (unit : Nat) : List Char :=
  '\\' :: 'u' :: hexDigits 4 unit

def writtenChar (c : Char) : List Char :=
  match c with
  | '"' => ['\\', '"']
  | '\\' => ['\\', '\\']
  | '\n' => ['\\', 'n']
  | '\r' => ['\\', 'r']
  | '\t' => ['\\', 't']
  | '\x0c' => ['\\', 'f']
  | '\x08' => ['\\', 'b']
  | _ =>
    if 0x20 ≤ c.toNat ∧ c.toNat < 0x7F then [c]
    else if c.toNat < 0x10000 then escapedUnit c.toNat
    else
      escapedUnit (0xD800 + (c.toNat - 0x10000) / 0x400) ++
        escapedUnit (0xDC00 + (c.toNat - 0x10000) % 0x400)

def writtenText (s : String) : String :=
  String.ofList ('"' :: s.toList.flatMap writtenChar ++ ['"'])

def writtenFloat (x : Binary64) : String :=
  match x.magnitude with
  | .undefined => "NaN"
  | .infinite => if x.negative then "-Infinity" else "Infinity"
  | .finite _ _ => x.text

def keyText : Value → String
  | .text s => s
  | .bool b => if b then "true" else "false"
  | .null => "null"
  | .float x => writtenFloat x
  | key => key.toText

mutual

def write : Value → String
  | .null => "null"
  | .bool b => if b then "true" else "false"
  | .int n => toString n
  | .float x => writtenFloat x
  | .text s => writtenText s
  | .list items => "[" ++ ", ".intercalate (writeAll items) ++ "]"
  | .map entries => "\x7b" ++ ", ".intercalate (writeEntries entries) ++ "\x7d"
  | .pair first second => "[" ++ write first ++ ", " ++ write second ++ "]"
  | value => writtenText value.toText

def writeAll : List Value → List String
  | [] => []
  | item :: rest => write item :: writeAll rest

def writeEntries : List (Value × Value) → List String
  | [] => []
  | (key, item) :: rest =>
    (writtenText (keyText key) ++ ": " ++ write item) :: writeEntries rest

end

def isKey : Value → Bool
  | .text _ | .bool _ | .null | .int _ | .float _ => true
  | _ => false

mutual

def isWritable : Value → Bool
  | .date _ | .moment _ | .bytes _ | .set _ => false
  | .list items => areWritable items
  | .pair first second => isWritable first && isWritable second
  | .map entries => areWritableEntries entries
  | _ => true

def areWritable : List Value → Bool
  | [] => true
  | item :: rest => isWritable item && areWritable rest

def areWritableEntries : List (Value × Value) → Bool
  | [] => true
  | (key, item) :: rest => isKey key && isWritable item && areWritableEntries rest

end

def write? (value : Value) : Option String :=
  if isWritable value then some (write value) else none

end Variants.Json
