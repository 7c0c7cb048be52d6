import Variants.Text.Lowercase

/-!
Lowercase of lowercase. No small letter is a capital of its own, so a text in lowercase stays as it is.
-/

namespace Variants

namespace CaseRun

def Covers (run : CaseRun) (code : Nat) : Prop :=
  run.first ≤ code ∧ code ≤ run.last ∧ (code - run.first) % run.step = 0

/-- The small letters of a run are none of the capitals of another: they are all before or all behind them,
or fall between them, where every second code is a capital. -/
def misses (run other : CaseRun) : Bool :=
  Nat.blt (run.small + (run.last - run.first)) other.first || Nat.blt other.last run.small ||
    (run.step == 2 || run.first == run.last) && other.step == 2 && (run.small + other.first) % 2 == 1

theorem not_covers_of_misses {run other : CaseRun} (misses : run.misses other) {code : Nat}
    (covers : run.Covers code) : ¬ other.Covers (run.small + (code - run.first)) := by
  rcases covers with ⟨above, below, inStep⟩
  rintro ⟨otherAbove, otherBelow, otherInStep⟩
  simp only [CaseRun.misses, Bool.or_eq_true, Bool.and_eq_true, Nat.blt_eq, beq_iff_eq] at misses
  rcases misses with (before | behind) | ⟨⟨alternates | single, otherAlternates⟩, odd⟩
  · omega
  · omega
  · rw [alternates] at inStep
    rw [otherAlternates] at otherInStep
    omega
  · rw [otherAlternates] at otherInStep
    omega

end CaseRun

def capitalRuns : List CaseRun :=
  ⟨0x41, 0x5A, 1, 0x61⟩ :: ⟨0x130, 0x130, 1, 0x69⟩ :: caseRuns

def IsCapital (c : Char) : Prop :=
  ∃ run ∈ capitalRuns, run.Covers c.toNat

theorem misses_capitalRuns : ∀ run ∈ caseRuns, ∀ other ∈ capitalRuns, run.misses other = true := by
  have all : (caseRuns.all fun run => capitalRuns.all run.misses) = true := by decide +kernel
  simpa only [List.all_eq_true] using all

theorem isCapital_iff_of_ascii {c : Char} (ascii : c.toNat < 128) :
    IsCapital c ↔ 0x41 ≤ c.toNat ∧ c.toNat ≤ 0x5A := by
  have later : ∀ run ∈ capitalRuns.tail, 128 ≤ run.first := by decide +kernel
  constructor
  · rintro ⟨run, isRun, above, below, _⟩
    rcases List.mem_cons.mp isRun with rfl | behind
    · exact ⟨above, below⟩
    · have reached := later run behind
      omega
  · rintro ⟨above, below⟩
    exact ⟨_, List.mem_cons_self, above, below, Nat.mod_one _⟩

theorem lowerChar_cases {c : Char} (beyond : 128 ≤ c.toNat) :
    (∃ run ∈ caseRuns, run.Covers c.toNat ∧
        lowerChar c = Char.ofNat (run.small + (c.toNat - run.first))) ∨
      (∀ run ∈ caseRuns, ¬ run.Covers c.toNat) ∧ lowerChar c = c := by
  rw [lowerChar, if_neg (by omega)]
  split
  · rename_i run found
    left
    have covers := List.find?_some found
    simp only [Bool.and_eq_true, decide_eq_true_eq, beq_iff_eq, and_assoc] at covers
    exact ⟨run, List.mem_of_find?_eq_some found, covers, rfl⟩
  · rename_i absent
    right
    refine ⟨?_, rfl⟩
    intro run member covers
    have uncovered := List.find?_eq_none.mp absent run member
    simp only [Bool.and_eq_true, decide_eq_true_eq, beq_iff_eq, and_assoc] at uncovered
    exact uncovered covers

theorem lowerChar_ascii : ∀ code < 128,
    (lowerChar (Char.ofNat code)).toNat < 128 ∧
      ¬ (0x41 ≤ (lowerChar (Char.ofNat code)).toNat ∧ (lowerChar (Char.ofNat code)).toNat ≤ 0x5A) ∧
      (¬ (0x41 ≤ code ∧ code ≤ 0x5A) → lowerChar (Char.ofNat code) = Char.ofNat code) := by
  decide +kernel

theorem lowerChar_of_not_isCapital {c : Char} (small : ¬ IsCapital c) : lowerChar c = c := by
  rcases Nat.lt_or_ge c.toNat 128 with ascii | beyond
  · rw [isCapital_iff_of_ascii ascii] at small
    have stays := (lowerChar_ascii c.toNat ascii).2.2 small
    rwa [Char.ofNat_toNat] at stays
  · rcases lowerChar_cases beyond with ⟨run, member, covers, _⟩ | ⟨_, stays⟩
    · exact absurd ⟨run, List.mem_cons_of_mem _ (List.mem_cons_of_mem _ member), covers⟩ small
    · exact stays

theorem toNat_ofNat_cases (code : Nat) : (Char.ofNat code).toNat = code ∨ Char.ofNat code = '\x00' := by
  by_cases valid : code.isValidChar
  · left
    rw [Char.ofNat, dif_pos valid]
    rfl
  · right
    rw [Char.ofNat, dif_neg valid]
    rfl

theorem not_isCapital_lowerChar {c : Char} (notDotted : c ≠ 'İ') : ¬ IsCapital (lowerChar c) := by
  rcases Nat.lt_or_ge c.toNat 128 with ascii | beyond
  · have lowered := lowerChar_ascii c.toNat ascii
    rw [Char.ofNat_toNat] at lowered
    rw [isCapital_iff_of_ascii lowered.1]
    exact lowered.2.1
  · rcases lowerChar_cases beyond with ⟨run, member, covers, lowered⟩ | ⟨uncovered, stays⟩
    · rw [lowered]
      rcases toNat_ofNat_cases (run.small + (c.toNat - run.first)) with same | invalid
      · rintro ⟨other, isRun, otherCovers⟩
        rw [same] at otherCovers
        exact CaseRun.not_covers_of_misses (misses_capitalRuns run member other isRun) covers otherCovers
      · rw [invalid, isCapital_iff_of_ascii (by decide)]
        decide
    · rw [stays]
      rintro ⟨run, isRun, covers⟩
      rcases List.mem_cons.mp isRun with rfl | isRun
      · exact absurd (Nat.le_trans beyond covers.2.1) (by decide)
      · rcases List.mem_cons.mp isRun with rfl | member
        · apply notDotted
          rw [← Char.ofNat_toNat c, Nat.le_antisymm covers.2.1 covers.1]
        · exact uncovered run member covers

theorem isCapital_dotted : IsCapital 'İ' :=
  ⟨⟨0x130, 0x130, 1, 0x69⟩, List.mem_cons_of_mem _ List.mem_cons_self, by decide, by decide, by decide⟩

theorem isCapital_sigma : IsCapital 'Σ' := by
  have changes : lowerChar 'Σ' ≠ 'Σ' := by decide +kernel
  exact Classical.byContradiction fun small => changes (lowerChar_of_not_isCapital small)

theorem not_isCapital_of_stays {c : Char} (notDotted : c ≠ 'İ') (stays : lowerChar c = c) : ¬ IsCapital c := by
  rw [← stays]
  exact not_isCapital_lowerChar notDotted

theorem not_isCapital_of_mem_lowerFrom {before text : List Char} :
    ∀ c ∈ lowerFrom before text, ¬ IsCapital c := by
  induction text generalizing before with
  | nil => exact fun _ member => absurd member List.not_mem_nil
  | cons first rest ih =>
      intro c member
      rw [lowerFrom] at member
      rcases List.mem_append.mp member with here | later
      · split at here
        · split at here
          · rw [List.mem_singleton.mp here]
            exact not_isCapital_of_stays (by decide) (by decide +kernel)
          · rw [List.mem_singleton.mp here]
            exact not_isCapital_of_stays (by decide) (by decide +kernel)
        · split at here
          · rw [List.mem_cons, List.mem_singleton] at here
            rcases here with rfl | rfl
            · exact not_isCapital_of_stays (by decide) (by decide +kernel)
            · exact not_isCapital_of_stays (by decide) (by decide +kernel)
          · rename_i notDotted
            rw [List.mem_singleton.mp here]
            exact not_isCapital_lowerChar notDotted
      · exact ih c later

theorem lowerFrom_of_no_capital {text : List Char} (small : ∀ c ∈ text, ¬ IsCapital c)
    (before : List Char) : lowerFrom before text = text := by
  induction text generalizing before with
  | nil => rfl
  | cons c rest ih =>
      rcases List.forall_mem_cons.mp small with ⟨here, later⟩
      have notSigma : c ≠ 'Σ' := fun same => here (same ▸ isCapital_sigma)
      have notDotted : c ≠ 'İ' := fun same => here (same ▸ isCapital_dotted)
      rw [lowerFrom, if_neg notSigma, if_neg notDotted, lowerChar_of_not_isCapital here, ih later]
      rfl

theorem lowercase_lowercase (text : String) : lowercase (lowercase text) = lowercase text := by
  have small : ∀ c ∈ (lowercase text).toList, ¬ IsCapital c := by
    rw [lowercase, String.toList_ofList]
    exact not_isCapital_of_mem_lowerFrom
  calc
    lowercase (lowercase text) = String.ofList (lowerFrom [] (lowercase text).toList) := rfl
    _ = String.ofList (lowercase text).toList := by rw [lowerFrom_of_no_capital small]
    _ = lowercase text := String.ofList_toList

end Variants
