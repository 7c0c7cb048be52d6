import Variants.Number.Binary64
import Variants.Text.Blank
import Variants.Text.Digit

/-!
The decimal text of a binary number: the fewest digits that read back, positional while the first
digit stands between the fourth place after the point and the sixteenth before it. Reading takes any
number of digits, and blanks around them.
-/

namespace Variants.Binary64

def smallestPositional : Int := -4
def largestPositional : Int := 15

def layout (digits : List Char) (point : Int) : List Char :=
  let exponent := point - 1
  if smallestPositional ≤ exponent ∧ exponent ≤ largestPositional then
    if point ≤ 0 then '0' :: '.' :: List.replicate point.natAbs '0' ++ digits
    else
      let whole := digits.take point.toNat
      let rest := digits.drop point.toNat
      whole ++ List.replicate (point.toNat - whole.length) '0' ++
        '.' :: if rest.isEmpty then ['0'] else rest
  else
    let size := Nat.toDigits 10 exponent.natAbs
    let mark := ['e', if exponent < 0 then '-' else '+'] ++ List.replicate (2 - size.length) '0' ++ size
    match digits with
    | [] => mark
    | [digit] => digit :: mark
    | digit :: rest => digit :: '.' :: rest ++ mark

def text (x : Binary64) : String :=
  let sign := if x.negative then "-" else ""
  match x.magnitude with
  | .undefined => "nan"
  | .infinite => sign ++ "inf"
  | .finite 0 _ => sign ++ "0.0"
  | .finite mantissa exponent =>
    let (number, shift) := shortest mantissa exponent
    let digits := Nat.toDigits 10 number
    let kept := (digits.reverse.dropWhile (· == '0')).reverse
    sign ++ String.ofList (layout kept (digits.length + shift))

def trimBlanks (text : List Char) : List Char :=
  ((text.dropWhile isBlank).reverse.dropWhile isBlank).reverse

def splitSign : List Char → Bool × List Char
  | '-' :: rest => (true, rest)
  | '+' :: rest => (false, rest)
  | rest => (false, rest)

/-- The digits at the start of a text, single underscores between them left out, and the rest. -/
def digitsOf (afterDigit : Bool) : List Char → List Nat × List Char
  | [] => ([], [])
  | '_' :: next :: more =>
    if afterDigit && (digitValue? next).isSome then digitsOf false (next :: more)
    else ([], '_' :: next :: more)
  | c :: rest =>
    match digitValue? c with
    | none => ([], c :: rest)
    | some digit =>
      let (digits, after) := digitsOf true rest
      (digit :: digits, after)

def digitsNumber (digits : List Nat) : Nat :=
  digits.foldl (fun n digit => 10 * n + digit) 0

def unsigned? (negative : Bool) (text : List Char) : Option Binary64 :=
  let small := text.map Char.toLower
  if small = "inf".toList ∨ small = "infinity".toList then some (infinity negative)
  else if small = "nan".toList then some undefined
  else
    let (whole, rest) := digitsOf false text
    let (places, rest) :=
      match rest with
      | '.' :: after => digitsOf false after
      | _ => ([], rest)
    let digits := digitsNumber (whole ++ places)
    if whole.isEmpty && places.isEmpty then none
    else
      match rest with
      | [] => some (ofDecimal negative digits (-places.length))
      | mark :: rest =>
        let (below, size) := splitSign rest
        let (size, rest) := digitsOf false size
        if (mark = 'e' ∨ mark = 'E') ∧ rest.isEmpty ∧ !size.isEmpty then
          let shift : Int := digitsNumber size
          some (ofDecimal negative digits ((if below then -shift else shift) - places.length))
        else none

def ofText? (text : List Char) : Option Binary64 :=
  let (negative, rest) := splitSign (trimBlanks text)
  unsigned? negative rest

end Variants.Binary64
