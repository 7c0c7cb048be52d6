import Variants.Calendar
import Variants.Number.Decimal
import Variants.Text.Quoted

/-!
Values of a document: scalars, lists, and mappings whose entries keep their order. Besides what both
document languages can write, a value may be a date, a moment, bytes, a pair or a set.
-/

namespace Variants

inductive Value
  | null
  | bool (b : Bool)
  | int (n : Int)
  | float (x : Binary64)
  | text (s : String)
  | date (d : Date)
  | moment (m : Moment)
  | bytes (bs : List UInt8)
  | list (items : List Value)
  | pair (first second : Value)
  | set (members : List Value)
  | map (entries : List (Value × Value))
  deriving Repr, Inhabited

abbrev Entries := List (Value × Value)

namespace Value

def ofTexts (texts : List String) : Value :=
  list (texts.map text)

def quotedByte (quote : Char) (b : UInt8) : List Char :=
  let c := Char.ofNat b.toNat
  if b.toNat < 128 then escapedChar quote c else '\\' :: 'x' :: hexDigits 2 b.toNat

def bytesText (bs : List UInt8) : String :=
  let quote := quoteFor (bs.map fun b => Char.ofNat b.toNat)
  String.ofList ('b' :: quote :: bs.flatMap (quotedByte quote) ++ [quote])

def dateShown (d : Date) : String :=
  "datetime.date(" ++ ", ".intercalate ([d.year, d.month, d.day].map toString) ++ ")"

def zoneShown (minutes : Int) : String :=
  if minutes = 0 then "datetime.timezone.utc" else "datetime.timezone(" ++ spanText minutes ++ ")"

def momentShown (m : Moment) : String :=
  let seconds :=
    if m.microsecond ≠ 0 then [m.second, m.microsecond] else if m.second ≠ 0 then [m.second] else []
  let fields := [m.date.year, m.date.month, m.date.day, m.hour, m.minute] ++ seconds
  "datetime.datetime(" ++ ", ".intercalate (fields.map toString) ++
    ((m.offset.map fun o => ", tzinfo=" ++ zoneShown o).getD "") ++ ")"

mutual

/-- The text of a value inside another one, where texts stand in quotes. -/
def shown : Value → String
  | null => "None"
  | bool b => if b then "True" else "False"
  | int n => toString n
  | float x => x.text
  | text s => quoted s
  | date d => dateShown d
  | moment m => momentShown m
  | bytes bs => bytesText bs
  | list items => "[" ++ ", ".intercalate (shownAll items) ++ "]"
  | pair first second => "(" ++ first.shown ++ ", " ++ second.shown ++ ")"
  | set members =>
    if members.isEmpty then "set()" else "\x7b" ++ ", ".intercalate (shownAll members) ++ "\x7d"
  | map entries => "\x7b" ++ ", ".intercalate (shownEntries entries) ++ "\x7d"

def shownAll : List Value → List String
  | [] => []
  | item :: rest => item.shown :: shownAll rest

def shownEntries : List (Value × Value) → List String
  | [] => []
  | (key, item) :: rest => (key.shown ++ ": " ++ item.shown) :: shownEntries rest

end

def toText : Value → String
  | text s => s
  | date d => d.text
  | moment m => m.text
  | value => value.shown

def digitLimit : Nat := 4300

mutual

/-- Whether a value has a text: an integer with too many digits has none, nor has what holds one. -/
def isShowable : Value → Bool
  | int n => (Nat.toDigits 10 n.natAbs).length ≤ digitLimit
  | list items => areShowable items
  | pair first second => first.isShowable && second.isShowable
  | set members => areShowable members
  | map entries => entriesShowable entries
  | _ => true

def areShowable : List Value → Bool
  | [] => true
  | item :: rest => item.isShowable && areShowable rest

def entriesShowable : List (Value × Value) → Bool
  | [] => true
  | (key, item) :: rest => key.isShowable && item.isShowable && entriesShowable rest

end

/-- Empty values, zero, false and null do not count as given. -/
def given : Value → Bool
  | null => false
  | bool b => b
  | int n => n != 0
  | float x => !x.isZero
  | text s => !s.isEmpty
  | bytes bs => !bs.isEmpty
  | list items => !items.isEmpty
  | set members => !members.isEmpty
  | map entries => !entries.isEmpty
  | date _ | moment _ | pair _ _ => true

def orElse (value fallback : Value) : Value :=
  if value.given then value else fallback

end Value

/-- A number of any kind, exactly: `scaled n e` is `n · 2^e`. -/
inductive Quantity
  | lowest
  | scaled (n : Int) (e : Int)
  | highest
  | undefined
  deriving DecidableEq

namespace Quantity

def ofBinary64 (x : Binary64) : Quantity :=
  match x.magnitude with
  | .undefined => undefined
  | .infinite => if x.negative then lowest else highest
  | .finite m q => scaled (if x.negative then -(m : Int) else m) q

def precedes : Quantity → Quantity → Bool
  | undefined, _ | _, undefined => false
  | lowest, lowest | highest, highest => false
  | lowest, _ => true
  | _, lowest => false
  | _, highest => true
  | highest, _ => false
  | scaled n e, scaled m f =>
    let base := min e f
    n * Nat.pow 2 (e - base).toNat < m * Nat.pow 2 (f - base).toNat

def same (a b : Quantity) : Bool :=
  match a, b with
  | undefined, _ | _, undefined => false
  | _, _ => !a.precedes b && !b.precedes a

end Quantity

namespace Value

def quantity? : Value → Option Quantity
  | bool b => some (.scaled (if b then 1 else 0) 0)
  | int n => some (.scaled n 0)
  | float x => some (Quantity.ofBinary64 x)
  | _ => none

mutual

/-- Whether two values are one key. Numbers count by their value, so `1`, `1.0` and `true` are one. -/
def same : Value → Value → Bool
  | null, null => true
  | text s, text t => s == t
  | date d, date e => d == e
  | moment m, moment n => m.offset.isSome == n.offset.isSome && m.instant == n.instant
  | bytes bs, bytes cs => bs == cs
  | list items, list others => sameAll items others
  | pair a b, pair c d => same a c && same b d
  | set members, set others => sameAll members others
  | map entries, map others => sameEntries entries others
  | a, b =>
    match a.quantity?, b.quantity? with
    | some x, some y => x.same y
    | _, _ => false

def sameAll : List Value → List Value → Bool
  | [], [] => true
  | a :: rest, b :: others => same a b && sameAll rest others
  | _, _ => false

def sameEntries : List (Value × Value) → List (Value × Value) → Bool
  | [], [] => true
  | (a, x) :: rest, (b, y) :: others => same a b && same x y && sameEntries rest others
  | _, _ => false

end

instance : BEq Value := ⟨same⟩

end Value

namespace Entries

def get? (entries : Entries) (key : Value) : Option Value :=
  (entries.find? fun entry => entry.1.same key).map (·.2)

def field (entries : Entries) (name : String) : Value :=
  (entries.get? (.text name)).getD .null

/-- The last item of a key stands where the key first stood. -/
def put (entries : Entries) (key item : Value) : Entries :=
  match entries with
  | [] => [(key, item)]
  | (known, old) :: rest =>
    if known.same key then (known, item) :: rest else (known, old) :: put rest key item

def ofList (entries : List (Value × Value)) : Entries :=
  entries.foldl (fun built entry => Entries.put built entry.1 entry.2) []

end Entries

end Variants
