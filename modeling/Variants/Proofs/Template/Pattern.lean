import Variants.Template.Rendering

/-!
Patterns with one slot. What stands around the slot stays as it is, and the text takes the place of the
slot, so a group in one of the known syntaxes never fails to be written.
-/

namespace Variants

namespace Pattern

def isBrace (c : Char) : Bool :=
  c == '\x7b' || c == '\x7d'

theorem literal_cons {c : Char} (plain : isBrace c = false) (rest : List Char) :
    literal (c :: rest) = do
      let (text, after) ← literal rest
      return (c :: text, after) := by
  have notOpening : c ≠ '\x7b' := by
    rintro rfl
    contradiction
  have notClosing : c ≠ '\x7d' := by
    rintro rfl
    contradiction
  simp [literal, notOpening, notClosing]

theorem literal_plain {text : List Char} (plain : ∀ c ∈ text, isBrace c = false) :
    literal text = .ok (text, none) := by
  induction text with
  | nil => rfl
  | cons c text ih =>
      rw [literal_cons (plain c List.mem_cons_self), ih fun d later => plain d (.tail c later)]
      rfl

theorem literal_slot {before : List Char} (plain : ∀ c ∈ before, isBrace c = false)
    (after : List Char) :
    literal (before ++ '\x7b' :: '0' :: '\x7d' :: after) = .ok (before, some ('0' :: '\x7d' :: after)) := by
  induction before with
  | nil => rfl
  | cons c before ih =>
      rw [List.cons_append, literal_cons (plain c List.mem_cons_self),
        ih fun d later => plain d (.tail c later)]
      rfl

theorem fillFields_slot {expand : Expander} {before after : List Char}
    (plainBefore : ∀ c ∈ before, isBrace c = false) (plainAfter : ∀ c ∈ after, isBrace c = false)
    (text : List Char) (fuel : Nat) :
    fillFields expand text (fuel + 2) .open (before ++ '\x7b' :: '0' :: '\x7d' :: after) =
      .ok (before ++ text ++ after, .numbered) := by
  have rest : fillFields expand text (fuel + 1) .numbered after = .ok (after, .numbered) := by
    rw [fillFields, literal_plain plainAfter]
    rfl
  rw [fillFields, literal_slot plainBefore]
  -- The slot names the text by its number and asks for nothing else.
  change (fillFields expand text (fuel + 1) .numbered after).bind (fun shown =>
    pure (before ++ text ++ shown.1, shown.2)) = _
  rw [rest]
  rfl

theorem fill_slot {before after : List Char} (plainBefore : ∀ c ∈ before, isBrace c = false)
    (plainAfter : ∀ c ∈ after, isBrace c = false) (text : List Char) :
    fill (before ++ '\x7b' :: '0' :: '\x7d' :: after) text = .ok (before ++ text ++ after) := by
  have fuel : (before ++ '\x7b' :: '0' :: '\x7d' :: after).length + 1 =
      (before.length + after.length + 2) + 2 := by
    simp only [List.length_append, List.length_cons]
    omega
  rw [fill, fuel, fillFields_slot plainBefore plainAfter]
  rfl

end Pattern

namespace Template

variable {Custom : Type}

theorem grouped_slot {template : Template Custom} (before after : List Char)
    (pattern : template.group = String.ofList (before ++ '\x7b' :: '0' :: '\x7d' :: after))
    (plain : ∀ c ∈ before ++ after, Pattern.isBrace c = false) (inner : String) :
    template.grouped inner = .ok (String.ofList before ++ inner ++ String.ofList after) := by
  have plainBefore : ∀ c ∈ before, Pattern.isBrace c = false := fun c member =>
    plain c (List.mem_append_left after member)
  have plainAfter : ∀ c ∈ after, Pattern.isBrace c = false := fun c member =>
    plain c (List.mem_append_right before member)
  have filled : fillPattern template.group inner =
      .ok (String.ofList before ++ inner ++ String.ofList after) := by
    rw [fillPattern, pattern, String.toList_ofList, Pattern.fill_slot plainBefore plainAfter,
      ← String.ofList_toList (s := inner)]
    simp [bind, Except.bind, pure, Except.pure, String.ofList_append, String.append_assoc]
  rw [grouped, filled]
  rfl

end Template

end Variants
