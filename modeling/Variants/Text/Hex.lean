/-!
Numbers in base sixteen, written with a fixed count of digits.
-/

namespace Variants

def hexDigits : (width n : Nat) → List Char
  | 0, _ => []
  | width + 1, n => hexDigits width (n / 16) ++ [Nat.digitChar (n % 16)]

def hexValue? (c : Char) : Option Nat :=
  if c.isDigit then some (c.toNat - 48)
  else if 'a' ≤ c ∧ c ≤ 'f' then some (c.toNat - 87)
  else if 'A' ≤ c ∧ c ≤ 'F' then some (c.toNat - 55)
  else none

def hexNumber? (digits : List Char) : Option Nat :=
  digits.foldlM (fun n c => (hexValue? c).map (16 * n + ·)) 0

theorem mem_hexDigits {width n : Nat} {c : Char} (member : c ∈ hexDigits width n) :
    ∃ digit < 16, c = Nat.digitChar digit := by
  induction width generalizing n with
  | zero => simp [hexDigits] at member
  | succ width ih =>
      rw [hexDigits, List.mem_append, List.mem_singleton] at member
      rcases member with upper | last
      · exact ih upper
      · exact ⟨n % 16, Nat.mod_lt n (by decide), last⟩

theorem hexValue?_digitChar {digit : Nat} (bounded : digit < 16) :
    hexValue? (Nat.digitChar digit) = some digit := by
  have each : ∀ digit < 16, hexValue? (Nat.digitChar digit) = some digit := by decide
  exact each digit bounded

theorem hexNumber?_hexDigits {width n : Nat} (fits : n < Nat.pow 16 width) :
    hexNumber? (hexDigits width n) = some n := by
  induction width generalizing n with
  | zero =>
      have none : n = 0 := Nat.lt_one_iff.mp fits
      rw [none]
      rfl
  | succ width ih =>
      have whole : n < Nat.pow 16 width * 16 := fits
      have upper := ih (Nat.div_lt_of_lt_mul (Nat.mul_comm _ 16 ▸ whole))
      have split : 16 * (n / 16) + n % 16 = n := Nat.div_add_mod n 16
      rw [hexNumber?] at upper
      rw [hexDigits, hexNumber?, List.foldlM_append, upper]
      simp [hexValue?_digitChar (Nat.mod_lt n (by decide : 16 > 0)), split]

end Variants
