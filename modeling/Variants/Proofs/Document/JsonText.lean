import Variants.Document.Json

/-!
Texts in JSON. A character is written as itself, as a mark after a backslash, or as one or two numbers, and
each of these forms is read back as the character.
-/

namespace Variants.Json

def unitsOf (c : Char) : List Nat :=
  if c.toNat < 0x10000 then [c.toNat]
  else [0xD800 + (c.toNat - 0x10000) / 0x400, 0xDC00 + (c.toNat - 0x10000) % 0x400]

theorem writtenChar_cases (c : Char) :
    (∃ mark, mark ≠ 'u' ∧ simpleEscape? mark = some c ∧ c.toNat < 0x10000 ∧ writtenChar c = ['\\', mark]) ∨
      (c ≠ '"' ∧ c ≠ '\\' ∧ 0x20 ≤ c.toNat ∧ c.toNat < 0x10000 ∧ writtenChar c = [c]) ∨
      writtenChar c = (unitsOf c).flatMap escapedUnit := by
  unfold writtenChar
  split
  · exact .inl ⟨'"', by decide, rfl, by decide, rfl⟩
  · exact .inl ⟨'\\', by decide, rfl, by decide, rfl⟩
  · exact .inl ⟨'n', by decide, rfl, by decide, rfl⟩
  · exact .inl ⟨'r', by decide, rfl, by decide, rfl⟩
  · exact .inl ⟨'t', by decide, rfl, by decide, rfl⟩
  · exact .inl ⟨'f', by decide, rfl, by decide, rfl⟩
  · exact .inl ⟨'b', by decide, rfl, by decide, rfl⟩
  · rename_i quote backslash _ _ _ _ _
    right
    split
    · rename_i printed
      exact .inl ⟨quote, backslash, printed.1, by omega, rfl⟩
    · right
      rw [unitsOf]
      split
      · simp
      · simp

theorem lt_of_mem_unitsOf {c : Char} {unit : Nat} (member : unit ∈ unitsOf c) : unit < 0x10000 := by
  have valid : c.toNat < 0xD800 ∨ 0xDFFF < c.toNat ∧ c.toNat < 0x110000 := c.valid
  rw [unitsOf] at member
  split at member
  · rename_i small
    rwa [List.mem_singleton.mp member]
  · simp at member
    omega

/-- Raw characters that do not end a text, whatever follows. -/
def Open (raw : List Char) : Prop :=
  ∀ tail, body (raw ++ tail) = (body tail).map fun (more, after) => (raw ++ more, after)

theorem Open.nil : Open [] := by
  intro tail
  rw [List.nil_append]
  cases body tail <;> rfl

theorem Open.append {first second : List Char} (firstOpen : Open first) (secondOpen : Open second) :
    Open (first ++ second) := by
  intro tail
  rw [List.append_assoc, firstOpen, secondOpen, Option.map_map]
  congr 1
  funext found
  simp

theorem Open.flatMap {α : Type} {items : List α} {f : α → List Char} (each : ∀ item ∈ items, Open (f item)) :
    Open (items.flatMap f) := by
  induction items with
  | nil => exact .nil
  | cons item rest ih =>
      obtain ⟨here, later⟩ := List.forall_mem_cons.mp each
      exact here.append (ih later)

theorem open_escape (mark : Char) : Open ['\\', mark] := by
  intro tail
  rfl

theorem open_singleton {c : Char} (quote : c ≠ '"') (backslash : c ≠ '\\') (printed : 0x20 ≤ c.toNat) :
    Open [c] := by
  intro tail
  rw [List.singleton_append, body, if_neg (by omega)]
  · rfl
  · exact fun same => absurd same quote
  · exact fun _ _ same _ => absurd same backslash

theorem plain_of_mem_hexDigits {width n : Nat} {c : Char} (member : c ∈ hexDigits width n) :
    c ≠ '"' ∧ c ≠ '\\' ∧ 0x20 ≤ c.toNat := by
  have each : ∀ digit < 16, Nat.digitChar digit ≠ '"' ∧ Nat.digitChar digit ≠ '\\' ∧
      0x20 ≤ (Nat.digitChar digit).toNat := by decide
  obtain ⟨digit, bounded, rfl⟩ := mem_hexDigits member
  exact each digit bounded

theorem open_escapedUnit (unit : Nat) : Open (escapedUnit unit) := by
  have digits : Open ((hexDigits 4 unit).flatMap fun c => [c]) := by
    apply Open.flatMap
    intro c member
    obtain ⟨quote, backslash, printed⟩ := plain_of_mem_hexDigits member
    exact open_singleton quote backslash printed
  rw [List.flatMap_singleton'] at digits
  exact (open_escape 'u').append digits

theorem open_writtenChar (c : Char) : Open (writtenChar c) := by
  rcases writtenChar_cases c with ⟨mark, _, _, _, written⟩ | ⟨quote, backslash, printed, _, written⟩ | written
  · rw [written]
    exact open_escape mark
  · rw [written]
    exact open_singleton quote backslash printed
  · rw [written]
    exact .flatMap fun unit _ => open_escapedUnit unit

theorem body_written (text rest : List Char) :
    body (text.flatMap writtenChar ++ '"' :: rest) = some (text.flatMap writtenChar, rest) := by
  have opened : Open (text.flatMap writtenChar) := .flatMap fun c _ => open_writtenChar c
  rw [opened, body, Option.map_some]
  simp only [List.append_nil]

/-- Raw characters that stand for the given units, whatever follows. -/
def Stands (raw : List Char) (us : List Nat) : Prop :=
  ∀ tail, units (raw ++ tail) = (units tail).map (us ++ ·)

theorem Stands.nil : Stands [] [] := by
  intro tail
  rw [List.nil_append]
  cases units tail <;> rfl

theorem Stands.append {first second : List Char} {us others : List Nat} (stands : Stands first us)
    (othersStand : Stands second others) : Stands (first ++ second) (us ++ others) := by
  intro tail
  rw [List.append_assoc, stands, othersStand, Option.map_map]
  congr 1
  funext more
  simp

theorem Stands.flatMap {α : Type} {items : List α} {f : α → List Char} {g : α → List Nat}
    (each : ∀ item ∈ items, Stands (f item) (g item)) : Stands (items.flatMap f) (items.flatMap g) := by
  induction items with
  | nil => exact .nil
  | cons item rest ih =>
      obtain ⟨here, later⟩ := List.forall_mem_cons.mp each
      exact here.append (ih later)

theorem stands_escape {mark c : Char} (other : mark ≠ 'u') (escaped : simpleEscape? mark = some c) :
    Stands ['\\', mark] [c.toNat] := by
  intro tail
  rw [List.cons_append, List.singleton_append, units, escaped]
  · cases units tail <;> rfl
  · exact fun _ _ _ _ _ same _ => absurd same other

theorem stands_singleton {c : Char} (backslash : c ≠ '\\') : Stands [c] [c.toNat] := by
  intro tail
  rw [List.singleton_append, units]
  · cases units tail <;> rfl
  · exact fun _ _ _ _ _ same _ => absurd same backslash
  · exact fun _ _ same _ => absurd same backslash

theorem stands_escapedUnit {unit : Nat} (small : unit < 0x10000) : Stands (escapedUnit unit) [unit] := by
  intro tail
  have number : hexNumber? (hexDigits 4 unit) = some unit := hexNumber?_hexDigits small
  obtain ⟨a, b, c, d, digits⟩ : ∃ a b c d, hexDigits 4 unit = [a, b, c, d] := ⟨_, _, _, _, rfl⟩
  rw [escapedUnit, digits]
  rw [digits] at number
  simp only [List.cons_append, List.nil_append, units, number]
  cases units tail <;> rfl

theorem stands_writtenChar (c : Char) : Stands (writtenChar c) (unitsOf c) := by
  rcases writtenChar_cases c with ⟨mark, other, escaped, small, written⟩ |
    ⟨_, backslash, _, small, written⟩ | written
  · rw [written, unitsOf, if_pos small]
    exact stands_escape other escaped
  · rw [written, unitsOf, if_pos small]
    exact stands_singleton backslash
  · rw [written]
    have each := Stands.flatMap (g := fun unit => [unit]) fun unit (member : unit ∈ unitsOf c) =>
      stands_escapedUnit (lt_of_mem_unitsOf member)
    rwa [List.flatMap_singleton'] at each

theorem joinHalves_cons_of_small {unit : Nat} (whole : ¬ (0xD800 ≤ unit ∧ unit < 0xDC00)) (rest : List Nat) :
    joinHalves (unit :: rest) = Char.ofNat unit :: joinHalves rest := by
  cases rest with
  | nil => rfl
  | cons next others =>
      rw [joinHalves, if_neg]
      omega

theorem joinHalves_unitsOf (c : Char) (rest : List Nat) :
    joinHalves (unitsOf c ++ rest) = c :: joinHalves rest := by
  have valid : c.toNat < 0xD800 ∨ 0xDFFF < c.toNat ∧ c.toNat < 0x110000 := c.valid
  rw [unitsOf]
  split
  · rw [List.singleton_append, joinHalves_cons_of_small (by omega), Char.ofNat_toNat]
  · have number : 0x10000 + (0xD800 + (c.toNat - 0x10000) / 0x400 - 0xD800) * 0x400 +
        (0xDC00 + (c.toNat - 0x10000) % 0x400 - 0xDC00) = c.toNat := by omega
    rw [List.cons_append, List.singleton_append, joinHalves, if_pos (by omega), number, Char.ofNat_toNat]

theorem joinHalves_flatMap_unitsOf (text : List Char) : joinHalves (text.flatMap unitsOf) = text := by
  induction text with
  | nil => rfl
  | cons c rest ih => rw [List.flatMap_cons, joinHalves_unitsOf, ih]

theorem unescape?_written (text : List Char) :
    unescape? (text.flatMap writtenChar) = some (String.ofList text) := by
  have stands : Stands (text.flatMap writtenChar) (text.flatMap unitsOf) :=
    .flatMap fun c _ => stands_writtenChar c
  have read := stands []
  rw [List.append_nil, units, Option.map_some, List.append_nil] at read
  rw [unescape?, read, Option.map_some, joinHalves_flatMap_unitsOf]

theorem lexeme?_writtenText (s : String) (rest : List Char) :
    lexeme? ((writtenText s).toList ++ rest) = some (.scalar (.text s), rest) := by
  rw [writtenText, String.toList_ofList, List.cons_append, List.cons_append, List.append_assoc,
    List.singleton_append, lexeme?, body_written]
  simp [unescape?_written]

end Variants.Json
