import Mathlib.Data.List.SplitBy
import Variants.Condition.Token

/-!
The characters that tokens are made of. Every character is blank or belongs to exactly one kind of token,
and a run of characters of one kind, at which neither side goes on, is cut off whole.
-/

namespace Variants

namespace TokenKind

def Admits : TokenKind → Char → Prop
  | and, c => c ∈ ['&', '\\', ',', '/']
  | or, c => c ∈ ['|', '+']
  | not, c => c = '!'
  | opening, c => c = '('
  | closing, c => c = ')'
  | word, c => isWordChar c = true
  | invalid, c => isBlank c = false ∧ isWordChar c = false ∧
      c ∉ ['&', '\\', ',', '/', '|', '+', '!', '(', ')']

theorem toNat_bounds_of_isWordChar {c : Char} (inWord : isWordChar c = true) :
    48 ≤ c.toNat ∧ c.toNat ≤ 122 := by
  have ranges : ((decide (c.val ≥ 65 ∧ c.val ≤ 90) || (decide (c.val ≥ 97) && decide (c.val ≤ 122))) ||
      (decide (c.val ≥ 48) && decide (c.val ≤ 57)) || c == '_') = true := inWord
  simp only [Bool.or_eq_true, Bool.and_eq_true, decide_eq_true_eq, beq_iff_eq, ge_iff_le,
    UInt32.le_iff_toNat_le] at ranges
  change (((65 ≤ c.toNat ∧ c.toNat ≤ 90) ∨ (97 ≤ c.toNat ∧ c.toNat ≤ 122)) ∨
    (48 ≤ c.toNat ∧ c.toNat ≤ 57)) ∨ c = '_' at ranges
  rcases ranges with ((upper | lower) | digit) | rfl
  · omega
  · omega
  · omega
  · decide

theorem isBlank_of_isWordChar {c : Char} (inWord : isWordChar c = true) : isBlank c = false := by
  have bounds := toNat_bounds_of_isWordChar inWord
  simp [isBlank, blankRanges]
  omega

theorem ne_of_isWordChar {c mark : Char} (inWord : isWordChar c = true)
    (outside : isWordChar mark = false) : c ≠ mark := by
  rintro rfl
  rw [inWord] at outside
  contradiction

theorem ofChar?_of_isWordChar {c : Char} (inWord : isWordChar c = true) :
    ofChar? c = some .word := by
  have differs (mark : Char) (outside : isWordChar mark = false) : c ≠ mark :=
    ne_of_isWordChar inWord outside
  have notBlank := isBlank_of_isWordChar inWord
  simp [ofChar?, notBlank, inWord, differs '&' rfl, differs '\\' rfl, differs ',' rfl, differs '/' rfl,
    differs '|' rfl, differs '+' rfl, differs '!' rfl, differs '(' rfl, differs ')' rfl]

theorem ofChar?_eq_none_iff {c : Char} : ofChar? c = none ↔ isBlank c = true := by
  rw [ofChar?]
  split_ifs with blank <;> simp [blank]

theorem admits_of_ofChar?_eq_some {c : Char} {kind : TokenKind} (found : ofChar? c = some kind) :
    kind.Admits c := by
  unfold ofChar? at found
  split_ifs at found with blank isAnd isOr isNot isOpening isClosing inWord <;>
    obtain rfl := Option.some.inj found
  · simpa [Admits] using isAnd
  · simpa [Admits] using isOr
  · exact isNot
  · exact isOpening
  · exact isClosing
  · exact inWord
  · have outside : c ∉ ['&', '\\', ',', '/', '|', '+', '!', '(', ')'] := by
      simp_all
    exact ⟨by simpa using blank, by simpa using inWord, outside⟩

theorem ofChar?_of_admits {c : Char} {kind : TokenKind} (admitted : kind.Admits c) :
    ofChar? c = some kind := by
  cases kind with
  | and =>
      simp only [Admits, List.mem_cons, List.not_mem_nil, or_false] at admitted
      rcases admitted with rfl | rfl | rfl | rfl <;> rfl
  | or =>
      simp only [Admits, List.mem_cons, List.not_mem_nil, or_false] at admitted
      rcases admitted with rfl | rfl <;> rfl
  | not =>
      obtain rfl : c = '!' := admitted
      rfl
  | opening =>
      obtain rfl : c = '(' := admitted
      rfl
  | closing =>
      obtain rfl : c = ')' := admitted
      rfl
  | word => exact ofChar?_of_isWordChar admitted
  | invalid =>
      rcases admitted with ⟨notBlank, outsideWord, outside⟩
      simp only [List.mem_cons, List.not_mem_nil, or_false, not_or] at outside
      simp [ofChar?, notBlank, outsideWord, outside]

theorem ofChar?_eq_some_iff {c : Char} {kind : TokenKind} :
    ofChar? c = some kind ↔ kind.Admits c :=
  ⟨admits_of_ofChar?_eq_some, ofChar?_of_admits⟩

theorem eq_of_ofChar?_eq_not {c : Char} (isNot : ofChar? c = some .not) : c = '!' :=
  admits_of_ofChar?_eq_some isNot

theorem splitBy_run {kind? : Option TokenKind} {run rest : List Char} (nonempty : run ≠ [])
    (alike : ∀ c ∈ run, ofChar? c = kind?) (single : kind?.all runs = false → run.length = 1)
    (ends : kind?.all runs = true → ∀ c ∈ rest.head?, ofChar? c ≠ kind?) :
    (run ++ rest).splitBy joins = run :: rest.splitBy joins := by
  have chain : run.IsChain (joins · ·) := by
    cases together : kind?.all runs with
    | false =>
        rcases List.length_eq_one_iff.mp (single together) with ⟨c, rfl⟩
        exact List.isChain_singleton c
    | true =>
        apply List.Pairwise.isChain
        apply List.pairwise_of_forall_mem_list
        intro c inside d insideToo
        simp [joins, alike c inside, alike d insideToo, together]
  have apart : ∀ c ∈ run.getLast?, ∀ d ∈ rest.head?, joins c d = false := by
    intro c last d next
    have kind := alike c (List.mem_of_getLast? last)
    cases together : kind?.all runs with
    | false => simp [joins, kind, together]
    | true => simp [joins, kind, (ends together d next).symm]
  rw [List.splitBy_append apart, List.splitBy_of_isChain nonempty chain, List.singleton_append]

end TokenKind

end Variants
