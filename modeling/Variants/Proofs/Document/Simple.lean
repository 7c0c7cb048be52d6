import Variants.Document.Json
import Variants.Document.Yaml.Writer
import Variants.Proofs.Document.Entries

/-!
The values that a configuration is written as: texts, lists, and mappings under names. Both document
languages can write them.
-/

namespace Variants

/-- A value of texts and nulls, in lists and in mappings that have distinct texts for keys. -/
inductive Value.Simple : Value → Prop
  | null : Simple .null
  | text (s : String) : Simple (.text s)
  | list {items : List Value} (each : ∀ item ∈ items, Simple item) : Simple (.list items)
  | map {entries : List (Value × Value)} (texts : Entries.Texts entries)
      (distinct : (entries.map (·.1)).Nodup) (each : ∀ entry ∈ entries, Simple entry.2) :
      Simple (.map entries)

namespace Value

theorem eq_of_sameAll {items others : List Value}
    (each : ∀ item ∈ items, ∀ other, same other item = true → other = item)
    (agree : sameAll others items = true) : others = items := by
  induction items generalizing others with
  | nil =>
      cases others with
      | nil => rfl
      | cons first later => simp [sameAll] at agree
  | cons item rest ih =>
      cases others with
      | nil => simp [sameAll] at agree
      | cons first later =>
          rw [sameAll, Bool.and_eq_true] at agree
          obtain ⟨here, there⟩ := List.forall_mem_cons.mp each
          rw [here first agree.1, ih there agree.2]

theorem eq_of_sameEntries {entries others : Entries} (texts : entries.Texts)
    (each : ∀ entry ∈ entries, ∀ other, same other entry.2 = true → other = entry.2)
    (agree : sameEntries others entries = true) : others = entries := by
  induction entries generalizing others with
  | nil =>
      cases others with
      | nil => rfl
      | cons first later => simp [sameEntries] at agree
  | cons entry rest ih =>
      cases others with
      | nil => simp [sameEntries] at agree
      | cons first later =>
          rcases entry with ⟨key, item⟩
          rcases first with ⟨otherKey, otherItem⟩
          obtain ⟨⟨name, named⟩, otherTexts⟩ := List.forall_mem_cons.mp texts
          obtain ⟨here, there⟩ := List.forall_mem_cons.mp each
          cases named
          rw [sameEntries, Bool.and_eq_true, Bool.and_eq_true] at agree
          rw [same_text_iff.mp agree.1.1, here otherItem agree.1.2, ih otherTexts there agree.2]

theorem Simple.eq_of_same {value other : Value} (simple : value.Simple)
    (agree : same other value = true) : other = value := by
  induction simple generalizing other with
  | null => cases other <;> simp_all [same, quantity?]
  | text s => exact same_text_iff.mp agree
  | list each ih =>
      cases other with
      | list others =>
          rw [same] at agree
          rw [eq_of_sameAll (fun item member other => ih item member) agree]
      | _ => simp [same, quantity?] at agree
  | map texts distinct each ih =>
      cases other with
      | map others =>
          rw [same] at agree
          rw [eq_of_sameEntries texts (fun entry member other => ih entry member) agree]
      | _ => simp [same, quantity?] at agree

end Value

namespace Json

theorem areWritable_of_each {items : List Value} (each : ∀ item ∈ items, isWritable item = true) :
    areWritable items = true := by
  induction items with
  | nil => rfl
  | cons item rest ih =>
      obtain ⟨here, later⟩ := List.forall_mem_cons.mp each
      rw [areWritable, here, ih later]
      rfl

theorem areWritableEntries_of_each {entries : Entries} (texts : entries.Texts)
    (each : ∀ entry ∈ entries, isWritable entry.2 = true) : areWritableEntries entries = true := by
  induction entries with
  | nil => rfl
  | cons entry rest ih =>
      obtain ⟨⟨name, named⟩, otherTexts⟩ := List.forall_mem_cons.mp texts
      obtain ⟨here, later⟩ := List.forall_mem_cons.mp each
      rcases entry with ⟨key, item⟩
      cases named
      rw [areWritableEntries, here, ih otherTexts later]
      rfl

theorem isWritable_of_simple {value : Value} (simple : value.Simple) : isWritable value = true := by
  induction simple with
  | null => rfl
  | text s => rfl
  | list each ih => exact areWritable_of_each ih
  | map texts distinct each ih => exact areWritableEntries_of_each texts ih

end Json

namespace Yaml

def Writes (value : Value) : Prop :=
  ∀ context indent pen, ∃ next, writeValue context indent pen value = some next

theorem writes_text (s : String) : Writes (.text s) :=
  fun _ _ _ => ⟨_, rfl⟩

theorem exists_writeItems {items : List Value} (each : ∀ item ∈ items, Writes item) (indent : Nat)
    (pen : Pen) : ∃ next, writeItems indent pen items = some next := by
  induction items generalizing pen with
  | nil => exact ⟨pen, rfl⟩
  | cons item rest ih =>
      obtain ⟨here, later⟩ := List.forall_mem_cons.mp each
      obtain ⟨first, written⟩ := here .item (some indent) ((pen.indentTo indent).mark ['-'] true true)
      rw [writeItems, written]
      exact ih later first

theorem exists_writeEntries {entries : Entries} (texts : entries.Texts)
    (each : ∀ entry ∈ entries, Writes entry.2) (indent : Nat) (pen : Pen) :
    ∃ next, writeEntries indent pen entries = some next := by
  induction entries generalizing pen with
  | nil => exact ⟨pen, rfl⟩
  | cons entry rest ih =>
      obtain ⟨⟨name, named⟩, otherTexts⟩ := List.forall_mem_cons.mp texts
      obtain ⟨here, later⟩ := List.forall_mem_cons.mp each
      rcases entry with ⟨key, item⟩
      cases named
      obtain ⟨marked, markedWritten⟩ := writes_text name .entry (some indent)
        ((pen.indentTo indent).mark ['?'] true true)
      rw [writeEntries]
      split
      · obtain ⟨first, written⟩ := here .entry (some indent)
          ((writeScalar (indent + bestIndent) true name.toList .text (pen.indentTo indent)).mark
            [':'] false false)
        simp only [scalarText, Option.bind_eq_bind, Option.bind_some, written]
        exact ih otherTexts later first
      · obtain ⟨first, written⟩ := here .entry (some indent)
          ((marked.indentTo indent).mark [':'] true true)
        simp only [Option.bind_eq_bind, Option.bind_some, markedWritten, written]
        exact ih otherTexts later first

theorem writes_of_simple {value : Value} (simple : value.Simple) : Writes value := by
  intro context indent pen
  induction simple generalizing context indent pen with
  | null => exact ⟨_, rfl⟩
  | text s => exact writes_text s context indent pen
  | list each ih =>
      rw [writeValue]
      split
      · exact ⟨_, rfl⟩
      · exact exists_writeItems (fun item member => ih item member) _ pen
  | map texts distinct each ih =>
      rw [writeValue]
      split
      · exact ⟨_, rfl⟩
      · exact exists_writeEntries texts (fun entry member => ih entry member) _ pen

theorem exists_write {value : Value} (simple : value.Simple) : ∃ text, write? value = some text := by
  obtain ⟨next, written⟩ := writes_of_simple simple .root none {}
  rw [write?, written]
  exact ⟨_, rfl⟩

end Yaml

end Variants
