import Variants.Calendar
import Variants.Text.Digit

/-!
What a plain scalar of YAML 1.1 stands for, by its form: a truth value, a number in one of several
notations, a date or moment, nothing, one of two marks in mappings, or else a text.
-/

namespace Variants.Yaml

inductive ScalarKind
  | null
  | bool
  | int
  | float
  | timestamp
  | merge
  | default
  | text
  deriving DecidableEq, Repr

def truthWords : List (String × Bool) :=
  [("yes", true), ("no", false), ("true", true), ("false", false), ("on", true), ("off", false)]

def casings (word : String) : List String :=
  [word, word.capitalize, word.toUpper]

def isOneOf (words : List String) (text : List Char) : Bool :=
  (words.flatMap casings).contains (String.ofList text)

def dropSign : List Char → List Char
  | '-' :: rest | '+' :: rest => rest
  | rest => rest

def isSpacedDigit (c : Char) : Bool :=
  c.isDigit || c == '_'

def isOctalDigit (c : Char) : Bool :=
  ('0' ≤ c && c ≤ '7') || c == '_'

def isHexDigit (c : Char) : Bool :=
  isSpacedDigit c || ('a' ≤ c && c ≤ 'f') || ('A' ≤ c && c ≤ 'F')

def isSome (test : Char → Bool) (text : List Char) : Bool :=
  !text.isEmpty && text.all test

def isCount (first : Char → Bool) : List Char → Bool
  | c :: rest => first c && rest.all isSpacedDigit
  | [] => false

def isSixtieth : List Char → Bool
  | [d] => d.isDigit
  | [d, e] => '0' ≤ d && d ≤ '5' && e.isDigit
  | _ => false

def splitAt (mark : Char) : List Char → List (List Char)
  | [] => [[]]
  | c :: rest =>
    if c = mark then [] :: splitAt mark rest
    else
      match splitAt mark rest with
      | [] => [[c]]
      | first :: others => (c :: first) :: others

def isSexagesimal (text : List Char) : Bool :=
  match splitAt ':' text with
  | first :: second :: rest =>
    isCount (fun c => c.isDigit && c != '0') first && (second :: rest).all isSixtieth
  | _ => false

def isInt (text : List Char) : Bool :=
  match dropSign text with
  | ['0'] => true
  | '0' :: 'b' :: digits => isSome (fun c => c == '0' || c == '1' || c == '_') digits
  | '0' :: 'x' :: digits => isSome isHexDigit digits
  | '0' :: digits => isSome isOctalDigit digits
  | digits => isCount Char.isDigit digits || isSexagesimal digits

def isExponent : List Char → Bool
  | [] => true
  | mark :: sign :: digits =>
    (mark == 'e' || mark == 'E') && (sign == '-' || sign == '+') && isSome Char.isDigit digits
  | _ => false

def isSexagesimalFloat (text : List Char) : Bool :=
  match splitAt ':' text with
  | first :: second :: rest =>
    let parts := second :: rest
    let last := parts.getLast?.getD []
    let (whole, places) := last.span (· != '.')
    isCount Char.isDigit first && parts.dropLast.all isSixtieth && isSixtieth whole &&
      !places.isEmpty && (places.drop 1).all isSpacedDigit
  | _ => false

def isFloat (text : List Char) : Bool :=
  let unsigned := dropSign text
  let (whole, fraction) := unsigned.span isSpacedDigit
  match fraction with
  | '.' :: places =>
    let (digits, exponent) := places.span isSpacedDigit
    if whole.isEmpty then
      (unsigned == text && isCount Char.isDigit digits && isExponent exponent) ||
        isOneOf ["inf"] places || (unsigned == text && ["nan", "NaN", "NAN"].contains (String.ofList places))
    else isCount Char.isDigit whole && isExponent exponent
  | _ => isSexagesimalFloat unsigned

/-- The parts of a timestamp; `offset` is the text of the offset from universal time. -/
structure Stamp where
  year : List Char
  month : List Char
  day : List Char
  time : Option (List Char × List Char × List Char) := none
  fraction : List Char := []
  universal : Bool := false
  offset : Option (Bool × List Char × List Char) := none

def takeDigits? (least most : Nat) (text : List Char) : Option (List Char × List Char) :=
  let digits := (text.take most).takeWhile Char.isDigit
  if digits.length < least then none else some (digits, text.drop digits.length)

def takeMark? (mark : Char) : List Char → Option (List Char)
  | c :: rest => if c = mark then some rest else none
  | [] => none

def isTab (c : Char) : Bool :=
  c == ' ' || c == '\t'

def stampZone? (stamp : Stamp) (text : List Char) : Option Stamp :=
  match text with
  | [] => some stamp
  | _ =>
    match text.dropWhile isTab with
    | ['Z'] => some { stamp with universal := true }
    | sign :: rest => do
      if sign ≠ '+' ∧ sign ≠ '-' then none
      let (hours, rest) ← takeDigits? 1 2 rest
      match rest with
      | [] => some { stamp with offset := some (sign == '-', hours, []) }
      | ':' :: rest =>
        let (minutes, rest) ← takeDigits? 2 2 rest
        if rest.isEmpty then some { stamp with offset := some (sign == '-', hours, minutes) } else none
      | _ => none
    | [] => none

def stampTime? (stamp : Stamp) (text : List Char) : Option Stamp := do
  let rest ←
    match text with
    | c :: rest =>
      if c = 'T' ∨ c = 't' then some rest
      else if isTab c then some (rest.dropWhile isTab)
      else none
    | [] => none
  let (hour, rest) ← takeDigits? 1 2 rest
  let (minute, rest) ← takeDigits? 2 2 (← takeMark? ':' rest)
  let (second, rest) ← takeDigits? 2 2 (← takeMark? ':' rest)
  let (fraction, rest) :=
    match rest with
    | '.' :: places => places.span Char.isDigit
    | _ => ([], rest)
  stampZone? { stamp with time := some (hour, minute, second), fraction } rest

def stamp? (text : List Char) : Option Stamp := do
  let (year, rest) ← takeDigits? 4 4 text
  let (month, rest) ← takeDigits? 1 2 (← takeMark? '-' rest)
  let (day, rest) ← takeDigits? 1 2 (← takeMark? '-' rest)
  let stamp : Stamp := { year, month, day }
  if rest.isEmpty then some stamp else stampTime? stamp rest

/-- A date alone has two digits for its month and its day. -/
def isTimestamp (text : List Char) : Bool :=
  match stamp? text with
  | some stamp => stamp.time.isSome || text.length == 10
  | none => false

def plainKind (text : List Char) : ScalarKind :=
  if text.isEmpty || text == ['~'] || isOneOf ["null"] text then .null
  else if isOneOf (truthWords.map (·.1)) text then .bool
  else if isFloat text then .float
  else if isInt text then .int
  else if text == ['<', '<'] then .merge
  else if isTimestamp text then .timestamp
  else if text == ['='] then .default
  else .text

end Variants.Yaml
