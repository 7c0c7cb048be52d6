import Variants.Number.Rounding

/-!
Binary floating-point numbers of 64 bits, held as their bits, so that two of them are equal exactly
when their texts are. Rounding and the choice of digits are exact arithmetic on naturals.
-/

namespace Variants

structure Binary64 where
  bits : UInt64
  deriving DecidableEq, Repr, Inhabited

namespace Binary64

/-- A number without its sign: `finite m q` is `m · 2^q`. -/
inductive Magnitude
  | finite (mantissa : Nat) (exponent : Int)
  | infinite
  | undefined
  deriving DecidableEq, Repr

def signBit : Nat := 0x8000000000000000

/-- The first bit of a mantissa, which is not stored; below it stand the stored ones. -/
def leadingBit : Nat := 0x10000000000000

def infinityBits : Nat := 0x7FF0000000000000

def negative (x : Binary64) : Bool :=
  signBit ≤ x.bits.toNat

def magnitudeBits (x : Binary64) : Nat :=
  x.bits.toNat % signBit

def magnitude (x : Binary64) : Magnitude :=
  let exponent := x.magnitudeBits / leadingBit
  let fraction := x.magnitudeBits % leadingBit
  if x.magnitudeBits = infinityBits then .infinite
  else if infinityBits < x.magnitudeBits then .undefined
  else if exponent = 0 then .finite fraction (-1074)
  else .finite (leadingBit + fraction) ((exponent : Int) - 1075)

def make (negative : Bool) (magnitudeBits : Nat) : Binary64 :=
  ⟨UInt64.ofNat (magnitudeBits + if negative then signBit else 0)⟩

def infinity (negative : Bool) : Binary64 :=
  make negative infinityBits

def undefined : Binary64 :=
  make false (infinityBits + leadingBit / 2)

def negate (x : Binary64) : Binary64 :=
  make (!x.negative) x.magnitudeBits

def isZero (x : Binary64) : Bool :=
  x.magnitude == .finite 0 (-1074)

def ofQuotient (numerator denominator : Nat) : Nat :=
  let scaled (q : Int) : Nat × Nat :=
    let factor := Nat.pow 2 q.natAbs
    if q < 0 then (numerator * factor, denominator) else (numerator, denominator * factor)
  let guess : Int := (numerator.log2 : Int) - denominator.log2 - 52
  let (top, bottom) := scaled guess
  let exact := if top / bottom < leadingBit then guess - 1 else guess
  let q := if exact < -1074 then -1074 else exact
  let (top, bottom) := scaled q
  let mantissa := roundQuotient top bottom
  let bits := (q + 1075).toNat * leadingBit + (mantissa - leadingBit)
  if mantissa < leadingBit then mantissa
  else if infinityBits < bits then infinityBits
  else bits

def ofDecimal (negative : Bool) (digits : Nat) (exponent : Int) : Binary64 :=
  if digits = 0 then make negative 0
  else
    let places : Int := digits.log2 * 30103 / 100000 + exponent
    if places > 400 then infinity negative
    else if places < -400 then make negative 0
    else if exponent < 0 then make negative (ofQuotient digits (Nat.pow 10 exponent.natAbs))
    else make negative (ofQuotient (digits * Nat.pow 10 exponent.natAbs) 1)

def toFloat (x : Binary64) : Float :=
  Float.ofBits x.bits

def ofFloat (x : Float) : Binary64 :=
  ⟨x.toBits⟩

/-- The decimal `d · 10^j` of the fewest digits that reads back as a number other than zero; of two
such decimals the nearer one, of two equally near ones the even one. -/
def shortest (mantissa : Nat) (exponent : Int) : Nat × Int :=
  -- Powers with negative exponents stand on the other side of a comparison.
  let two (i : Int) : Nat := Nat.pow 2 i.toNat
  let ten (i : Int) : Nat := Nat.pow 10 i.toNat
  -- The number, and the ends of what rounds to it, in quarters of the last place.
  let value := 4 * mantissa
  let high := value + 2
  let low := if mantissa = leadingBit ∧ exponent > -1074 then value - 1 else value - 2
  let q := exponent - 2
  let top := value * two q
  let bottom := two (-q)
  let reaches (k : Int) : Bool := ten k * bottom ≤ top * ten (-k)
  let guess : Int := ((mantissa.log2 : Int) + exponent) * 30103 / 100000 + 1
  let point := if reaches guess then guess + 1 else if reaches (guess - 1) then guess else guess - 1
  let inside (left right : Nat) : Bool :=
    if mantissa % 2 = 0 then left ≤ right else left < right
  let onGrid (count : Nat) : Option (Nat × Int) :=
    let j := point - count
    let a := two q * ten (-j)
    let b := ten j * two (-q)
    let below := value * a / b
    let hits := [below, below + 1].filter fun d =>
      inside (low * a) (d * b) && inside (d * b) (high * a)
    match hits with
    | [] => none
    | [d] => some (d, j)
    | d :: e :: _ =>
      let under := value * a - d * b
      let beyond := e * b - value * a
      some (if under < beyond ∨ (under = beyond ∧ d % 2 = 0) then d else e, j)
  ((List.range 17).findSome? fun n => onGrid (n + 1)).getD (0, 0)

end Binary64

end Variants
