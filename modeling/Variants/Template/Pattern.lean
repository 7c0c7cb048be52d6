import Variants.Text.Digit
import Variants.Text.Quoted

/-!
Patterns with slots for one text. A slot in braces may name the text by its number, pick a character
of it, quote it, and give a width, an alignment and a limit on its length; a doubled brace stands for
itself.
-/

namespace Variants

inductive PatternError
  | loneClosing
  | loneOpening
  | openingInName
  | unclosedField
  | unclosedSpec
  | missingConversion
  | afterConversion
  | unknownConversion (c : Char)
  | numberedAfterPlain
  | plainAfterNumbered
  | tooManyDigits
  | emptyAttribute
  | missingBracket
  | afterBracket
  | tooDeep
  | missingLimit
  | malformedSpec (spec : String)
  | bothSeparators
  | separator (mark : Char) (presentation : Char)
  | unknownPresentation (c : Char)
  | spaceSign
  | sign
  | negativeZero
  | alternate
  | signAlignment
  | noArgument (index : Nat)
  | noCharacter (index : Nat)
  | unknownName (name : String)
  | unknownAttribute (name : String)
  | wordIndex (name : String)
  deriving DecidableEq, Repr

namespace PatternError

def charName (c : Char) : String :=
  if 32 < c.toNat ∧ c.toNat < 127 then c.toString
  else "\\x" ++ String.ofList (Nat.toDigits 16 c.toNat)

def message : PatternError → String
  | loneClosing => "Single '\x7d' encountered in format string"
  | loneOpening => "Single '\x7b' encountered in format string"
  | openingInName => "unexpected '\x7b' in field name"
  | unclosedField => "expected '\x7d' before end of string"
  | unclosedSpec => "unmatched '\x7b' in format spec"
  | missingConversion => "end of string while looking for conversion specifier"
  | afterConversion => "expected ':' after conversion specifier"
  | unknownConversion c => "Unknown conversion specifier " ++ charName c
  | numberedAfterPlain =>
    "cannot switch from automatic field numbering to manual field specification"
  | plainAfterNumbered =>
    "cannot switch from manual field specification to automatic field numbering"
  | tooManyDigits => "Too many decimal digits in format string"
  | emptyAttribute => "Empty attribute in format string"
  | missingBracket => "Missing ']' in format string"
  | afterBracket => "Only '.' or '[' may follow ']' in format field specifier"
  | tooDeep => "Max string recursion exceeded"
  | missingLimit => "Format specifier missing precision"
  | malformedSpec spec => "Invalid format specifier '" ++ spec ++ "' for object of type 'str'"
  | bothSeparators => "Cannot specify both ',' and '_'."
  | separator mark presentation =>
    "Cannot specify '" ++ mark.toString ++ "' with '" ++ charName presentation ++ "'."
  | unknownPresentation c => "Unknown format code '" ++ charName c ++ "' for object of type 'str'"
  | spaceSign => "Space not allowed in string format specifier"
  | sign => "Sign not allowed in string format specifier"
  | negativeZero => "Negative zero coercion (z) not allowed in string format specifier"
  | alternate => "Alternate form (#) not allowed in string format specifier"
  | signAlignment => "'=' alignment not allowed in string format specifier"
  | noArgument index =>
    "Replacement index " ++ toString index ++ " out of range for positional args tuple"
  | noCharacter _ => "string index out of range"
  | unknownName name => name
  | unknownAttribute name => "'str' object has no attribute '" ++ name ++ "'"
  | wordIndex _ => "string indices must be integers, not 'str'"

end PatternError

namespace Pattern

def largestNumber : Nat := 0x7FFFFFFFFFFFFFFF

def number (text : List Char) : Except PatternError (Option Nat × List Char) :=
  let digits := text.takeWhile fun c => (digitValue? c).isSome
  let value := digits.foldl (fun n c => 10 * n + (digitValue? c).getD 0) 0
  if digits.isEmpty then .ok (none, text)
  else if largestNumber < value then .error .tooManyDigits
  else .ok (some value, text.drop digits.length)

def index? (text : List Char) : Except PatternError (Option Nat) := do
  if text.all fun c => (digitValue? c).isSome then return (← number text).1 else return none

def literal : List Char → Except PatternError (List Char × Option (List Char))
  | [] => .ok ([], none)
  | '\x7b' :: '\x7b' :: rest => do
    let (text, after) ← literal rest
    return ('\x7b' :: text, after)
  | '\x7d' :: '\x7d' :: rest => do
    let (text, after) ← literal rest
    return ('\x7d' :: text, after)
  | '\x7b' :: [] => .error .loneOpening
  | '\x7b' :: rest => .ok ([], some rest)
  | '\x7d' :: _ => .error .loneClosing
  | c :: rest => do
    let (text, after) ← literal rest
    return (c :: text, after)

/-- The name of a field, the mark that ends it, and the rest; within brackets no mark counts. -/
def fieldName (bracket : Bool) : List Char → Except PatternError (List Char × Char × List Char)
  | [] => .error .unclosedField
  | c :: rest => do
    if !bracket && c == '\x7b' then throw .openingInName
    if !bracket && (c == '\x7d' || c == ':' || c == '!') then return ([], c, rest)
    let (name, mark, after) ← fieldName (if bracket then c != ']' else c == '[') rest
    return (c :: name, mark, after)

def specification (depth : Nat) : List Char → Except PatternError (List Char × List Char)
  | [] => .error .unclosedSpec
  | c :: rest => do
    if c == '\x7d' && depth == 0 then return ([], rest)
    let inner := if c == '\x7b' then depth + 1 else if c == '\x7d' then depth - 1 else depth
    let (spec, after) ← specification inner rest
    return (c :: spec, after)

structure Field where
  name : List Char
  conversion : Option Char
  spec : List Char

def field (pattern : List Char) : Except PatternError (Field × List Char) := do
  let (name, mark, rest) ← fieldName false pattern
  if mark == '\x7d' then return (⟨name, none, []⟩, rest)
  if mark == ':' then
    let (spec, after) ← specification 0 rest
    return (⟨name, none, spec⟩, after)
  match rest with
  | [] => throw .missingConversion
  | c :: '\x7d' :: after => return (⟨name, some c, []⟩, after)
  | c :: ':' :: after =>
    let (spec, after) ← specification 0 after
    return (⟨name, some c, spec⟩, after)
  | _ :: [] => throw .unclosedSpec
  | _ => throw .afterConversion

/-- Fields are counted either by the pattern or by their writer, never both ways. -/
inductive Numbering
  | open
  | plain (next : Nat)
  | numbered

def argumentIndex (numbering : Numbering) (first : List Char) :
    Except PatternError (Nat × Numbering) := do
  match ← index? first, first, numbering with
  | none, [], .numbered => throw .plainAfterNumbered
  | none, [], .open => return (0, .plain 1)
  | none, [], .plain next => return (next, .plain (next + 1))
  | none, name, _ => throw (.unknownName (String.ofList name))
  | some _, _, .plain _ => throw .numberedAfterPlain
  | some index, _, _ => return (index, .numbered)

/-- The part of `text` that the rest of a field's name picks. -/
def pick : (fuel : Nat) → (path text : List Char) → Except PatternError (List Char)
  | _, [], text => .ok text
  | 0, _, text => .ok text
  | fuel + 1, '[' :: path, text => do
    let name := path.takeWhile (· != ']')
    match path.drop name.length with
    | [] => throw .missingBracket
    | _ :: rest =>
      let index ← index? name
      if name.isEmpty then throw .emptyAttribute
      match index with
      | none => throw (.wordIndex (String.ofList name))
      | some i =>
        match text[i]? with
        | none => throw (.noCharacter i)
        | some c => pick fuel rest [c]
  | _ + 1, '.' :: path, _ => do
    let name := path.takeWhile fun c => c != '.' && c != '['
    if name.isEmpty then throw .emptyAttribute
    throw (.unknownAttribute (String.ofList name))
  | _ + 1, _, _ => .error .afterBracket

def quotedAscii (text : List Char) : List Char :=
  (quoted (String.ofList text)).toList.flatMap fun c =>
    if c.toNat < 0x80 then [c]
    else if c.toNat < 0x100 then '\\' :: 'x' :: hexDigits 2 c.toNat
    else if c.toNat < 0x10000 then '\\' :: 'u' :: hexDigits 4 c.toNat
    else '\\' :: 'U' :: hexDigits 8 c.toNat

def convert (conversion : Option Char) (text : List Char) : Except PatternError (List Char) :=
  match conversion with
  | none => .ok text
  | some 's' => .ok text
  | some 'r' => .ok (quoted (String.ofList text)).toList
  | some 'a' => .ok (quotedAscii text)
  | some c => .error (.unknownConversion c)

structure Layout where
  fill : Char := ' '
  align : Char := '<'
  sign : Option Char := none
  negativeZero : Bool := false
  alternate : Bool := false
  width : Nat := 0
  separator : Option Char := none
  limit : Option Nat := none
  presentation : Char := 's'

def isAlignment (c : Char) : Bool :=
  c == '<' || c == '>' || c == '=' || c == '^'

def skip (c : Char) (text : List Char) : Bool × List Char :=
  match text with
  | d :: rest => if c = d then (true, rest) else (false, text)
  | [] => (false, [])

def separatorMark (spec : List Char) : Except PatternError (Option Char × List Char) :=
  match spec with
  | ',' :: '_' :: _ | '_' :: ',' :: _ => .error .bothSeparators
  | ',' :: rest => .ok (some ',', rest)
  | '_' :: rest => .ok (some '_', rest)
  | rest => .ok (none, rest)

def limitMark (spec : List Char) : Except PatternError (Option Nat × List Char) := do
  match spec with
  | '.' :: rest =>
    match ← number rest with
    | (none, _) => throw .missingLimit
    | (some limit, rest) => return (some limit, rest)
  | rest => return (none, rest)

def Layout.read (whole : List Char) : Except PatternError Layout := do
  let (fill, align, spec) :=
    match whole with
    | f :: a :: rest =>
      if isAlignment a then (some f, a, rest)
      else if isAlignment f then (none, f, a :: rest)
      else (none, '<', whole)
    | [a] => if isAlignment a then (none, a, []) else (none, '<', whole)
    | [] => (none, '<', [])
  let (sign, spec) :=
    match spec with
    | c :: rest => if c = ' ' ∨ c = '+' ∨ c = '-' then (some c, rest) else (none, spec)
    | [] => (none, spec)
  let (negativeZero, spec) := skip 'z' spec
  let (alternate, spec) := skip '#' spec
  let (zero, spec) := if fill.isNone then skip '0' spec else (false, spec)
  let (width, spec) ← number spec
  let (separator, spec) ← separatorMark spec
  let (limit, spec) ← limitMark spec
  let presentation ←
    match spec with
    | [] => pure 's'
    | [c] => pure c
    | _ => throw (.malformedSpec (String.ofList whole))
  return { fill := fill.getD (if zero then '0' else ' '), align, sign, negativeZero, alternate,
           width := width.getD 0, separator, limit, presentation }

def Layout.allowsSeparator (layout : Layout) (mark : Char) : Bool :=
  "deEfFgG%".toList.contains layout.presentation ||
    (mark == '_' && "boxX".toList.contains layout.presentation)

def Layout.check (layout : Layout) : Except PatternError Unit := do
  if let some mark := layout.separator then
    if !layout.allowsSeparator mark then throw (.separator mark layout.presentation)
  if layout.presentation ≠ 's' then throw (.unknownPresentation layout.presentation)
  match layout.sign with
  | some ' ' => throw .spaceSign
  | some _ => throw .sign
  | none => pure ()
  if layout.negativeZero then throw .negativeZero
  if layout.alternate then throw .alternate
  if layout.align = '=' then throw .signAlignment

def Layout.apply (layout : Layout) (text : List Char) : List Char :=
  let kept := (layout.limit.map text.take).getD text
  let missing := layout.width - kept.length
  let left :=
    if layout.align = '>' then missing else if layout.align = '^' then missing / 2 else 0
  List.replicate left layout.fill ++ kept ++ List.replicate (missing - left) layout.fill

def laidOut (spec text : List Char) : Except PatternError (List Char) := do
  if spec.isEmpty then return text
  let layout ← Layout.read spec
  layout.check
  return layout.apply text

abbrev Expander := Numbering → List Char → Except PatternError (List Char × Numbering)

def fillFields (expand : Expander) (text : List Char) : (fuel : Nat) → Expander
  | 0, numbering, _ => .ok ([], numbering)
  | fuel + 1, numbering, pattern => do
    let (before, rest) ← literal pattern
    match rest with
    | none => return (before, numbering)
    | some rest =>
      let (slot, rest) ← field rest
      let first := slot.name.takeWhile fun c => c != '.' && c != '['
      let path := slot.name.drop first.length
      let (index, numbering) ← argumentIndex numbering first
      if index ≠ 0 then throw (.noArgument index)
      let picked ← pick path.length path text
      let converted ← convert slot.conversion picked
      let (spec, numbering) ←
        if slot.spec.contains '\x7b' then expand numbering slot.spec else pure (slot.spec, numbering)
      let shown ← laidOut spec converted
      let (after, numbering) ← fillFields expand text fuel numbering rest
      return (before ++ shown ++ after, numbering)

def tooDeep : Expander := fun _ _ => .error .tooDeep

/-- Specifications may hold fields, and the specifications of those may not. -/
def fill (pattern text : List Char) : Except PatternError (List Char) := do
  let nested : Expander := fun numbering spec =>
    fillFields tooDeep text (spec.length + 1) numbering spec
  return (← fillFields nested text (pattern.length + 1) .open pattern).1

end Pattern

def fillPattern (pattern text : String) : Except PatternError String := do
  return String.ofList (← Pattern.fill pattern.toList text.toList)

end Variants
