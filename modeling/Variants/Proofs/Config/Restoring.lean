import Variants.Config.Text
import Variants.Proofs.Config.Reloading
import Variants.Proofs.Document.Json

/-!
Definitions come back as they are written, from a document as well as from its text, if names tell pivots
and choices apart and no choice bears the name of a field.
-/

namespace Variants.Config

theorem simple_ofTexts (texts : List String) : (Value.ofTexts texts).Simple := by
  apply Value.Simple.list
  intro item member
  obtain ⟨s, _, rfl⟩ := List.mem_map.mp member
  exact .text s

theorem simple_of_textual {value : Value} (textual : value.Textual) : value.Simple := by
  rcases textual with rfl | ⟨s, rfl⟩
  · exact .null
  · exact .text s

theorem simple_of_mem_entryUnlessNull {name : String} {value : Value} (textual : value.Textual)
    {entry : Value × Value} (member : entry ∈ entryUnlessNull name value) : entry.2.Simple := by
  rcases entryUnlessNull_cases name value with ⟨_, nothing⟩ | single
  · simp [nothing] at member
  · rw [single, List.mem_singleton] at member
    rw [member]
    exact simple_of_textual textual

theorem nodup_keys_choiceEntries (choice : ChoiceDefinition) :
    ((choiceEntries choice).map (·.1)).Nodup := by
  rw [choiceEntries]
  rcases entryUnlessNull_cases "description" choice.description with ⟨_, description⟩ | description <;>
    rw [description] <;> cases choice.aliases <;> cases choice.condition <;> simp

theorem simple_choiceEntries {choice : ChoiceDefinition} (textual : choice.description.Textual) :
    (Value.map (choiceEntries choice)).Simple := by
  refine .map ?_ (nodup_keys_choiceEntries choice) ?_
  · intro entry member
    obtain ⟨name, _, named⟩ := key_of_mem_choiceEntries member
    exact ⟨name, named⟩
  · intro entry member
    rw [choiceEntries, List.mem_append, List.mem_append] at member
    rcases member with (description | aliases) | condition
    · exact simple_of_mem_entryUnlessNull textual description
    · split at aliases
      · simp at aliases
      · rw [List.mem_singleton.mp aliases]
        exact simple_ofTexts choice.aliases
    · cases given : choice.condition with
      | none => simp [given] at condition
      | some text =>
          rw [given] at condition
          rw [List.mem_singleton.mp condition]
          exact .text text

theorem simple_writePivot {pivot : PivotDefinition} (textual : pivot.Textual) :
    (writePivot pivot).Simple := by
  rw [writePivot_eq, pivotEntries]
  have texts := texts_rawEntries pivot
  refine .map texts.ofList (Entries.nodup_keys_ofList texts) ?_
  intro entry member
  rcases List.mem_append.mp (Entries.mem_of_mem_ofList texts entry member) with field | body
  · rcases List.mem_cons.mp field with rfl | field
    · exact simple_ofTexts _
    · rcases List.mem_append.mp field with key | description
      · exact simple_of_mem_entryUnlessNull textual.key key
      · exact simple_of_mem_entryUnlessNull textual.description description
  · obtain ⟨choice, declared, body⟩ := List.mem_flatMap.mp body
    rw [choiceBody] at body
    split at body
    · simp at body
    · rw [List.mem_singleton.mp body]
      exact simple_choiceEntries (textual.choices choice declared)

theorem texts_map_pivotEntry (definitions : List PivotDefinition) :
    Entries.Texts (definitions.map pivotEntry) := by
  intro entry member
  obtain ⟨pivot, _, rfl⟩ := List.mem_map.mp member
  exact ⟨pivot.name, rfl⟩

theorem simple_write {definitions : List PivotDefinition}
    (textual : ∀ pivot ∈ definitions, pivot.Textual) : (write definitions).Simple := by
  have texts := texts_map_pivotEntry definitions
  refine .map texts.ofList (Entries.nodup_keys_ofList texts) ?_
  intro entry member
  obtain ⟨pivot, given, rfl⟩ := List.mem_map.mp (Entries.mem_of_mem_ofList texts entry member)
  exact simple_writePivot (textual pivot given)

/-- Definitions of texts that are told apart by their names, of which no choice bears the name of a field
and no pivot alone the name that wraps a document. -/
structure Restorable (definitions : List PivotDefinition) : Prop where
  textual : ∀ pivot ∈ definitions, pivot.Textual
  distinct : (definitions.map (·.name)).Nodup
  unwrapped : definitions.map (·.name) ≠ [wrapper]
  choices_distinct : ∀ pivot ∈ definitions, (pivot.choices.map (·.name)).Nodup
  unreserved : ∀ pivot ∈ definitions, ∀ choice ∈ pivot.choices, choice.name ∉ pivotKeys

instance : DecidablePred Restorable :=
  fun definitions => decidable_of_iff
    ((∀ pivot ∈ definitions, pivot.Textual) ∧ (definitions.map (·.name)).Nodup ∧
      definitions.map (·.name) ≠ [wrapper] ∧
      (∀ pivot ∈ definitions, (pivot.choices.map (·.name)).Nodup) ∧
      ∀ pivot ∈ definitions, ∀ choice ∈ pivot.choices, choice.name ∉ pivotKeys)
    ⟨fun ⟨textual, distinct, unwrapped, choicesDistinct, unreserved⟩ =>
      ⟨textual, distinct, unwrapped, choicesDistinct, unreserved⟩,
      fun restorable => ⟨restorable.textual, restorable.distinct, restorable.unwrapped,
        restorable.choices_distinct, restorable.unreserved⟩⟩

theorem declaredFirst_of_nodup {pivot : PivotDefinition}
    (distinct : (pivot.choices.map (·.name)).Nodup) : pivot.declaredFirst = pivot := by
  rw [PivotDefinition.declaredFirst, firstDeclared_of_nodup distinct]

theorem storable_of_nodup {pivot : PivotDefinition} (distinct : (pivot.choices.map (·.name)).Nodup)
    (unreserved : ∀ choice ∈ pivot.choices, choice.name ∉ pivotKeys) : pivot.Storable where
  repeated := by
    rw [List.Nodup, List.pairwise_map] at distinct
    exact distinct.imp fun apart same => absurd same apart
  key choice member named := absurd (named ▸ by decide) (unreserved choice member)
  description choice member named := absurd (named ▸ by decide) (unreserved choice member)

theorem write_of_nodup {definitions : List PivotDefinition}
    (distinct : (definitions.map (·.name)).Nodup) :
    write definitions = .map (definitions.map pivotEntry) := by
  have keys : (definitions.map pivotEntry).map (·.1) = (definitions.map (·.name)).map Value.text := by
    rw [List.map_map, List.map_map]
    rfl
  have distinctKeys : ((definitions.map pivotEntry).map (·.1)).Nodup := by
    rw [keys, List.Nodup, List.pairwise_map]
    exact distinct.imp fun apart same => apart (Value.text.inj same)
  exact congrArg Value.map (Entries.ofList_of_nodup (texts_map_pivotEntry definitions) distinctKeys)

theorem Restorable.not_wrapped {definitions : List PivotDefinition} (restorable : Restorable definitions) :
    ¬ isWrapped (definitions.map pivotEntry) = true := by
  intro wrapped
  obtain ⟨nonempty, all⟩ := isWrapped_map_pivotEntry.mp wrapped
  have distinct := restorable.distinct
  match definitions with
  | [] => exact nonempty rfl
  | [pivot] =>
      apply restorable.unwrapped
      rw [List.map_singleton, all pivot List.mem_cons_self]
  | first :: second :: rest =>
      have same : first.name = second.name := (all first (by simp)).trans (all second (by simp)).symm
      simp [same] at distinct

theorem Restorable.read_write {definitions : List PivotDefinition} (restorable : Restorable definitions) :
    read (write definitions) = .ok ⟨definitions, []⟩ := by
  have storable : ∀ pivot ∈ definitions, pivot.Storable := fun pivot member =>
    storable_of_nodup (restorable.choices_distinct pivot member) (restorable.unreserved pivot member)
  have unchanged : definitions.map PivotDefinition.declaredFirst = definitions := by
    conv_rhs => rw [← List.map_id definitions]
    apply List.map_congr_left
    intro pivot member
    exact declaredFirst_of_nodup (restorable.choices_distinct pivot member)
  rw [write_of_nodup restorable.distinct, read_of_not_wrapped restorable.not_wrapped]
  rcases readEntries_map_pivotEntry restorable.textual storable with found | ⟨shared, _⟩
  · rw [found, unchanged]
  · obtain ⟨pivot, member, choice, declared, reserved⟩ := shared
    exact absurd reserved (restorable.unreserved pivot member choice declared)

/-- Definitions come back as they are and without a warning, from the document that is written of them, from
its JSON text, and from its YAML text by any `dump` and `load` of which `load` gives back the document. -/
theorem read_write_restores {definitions : List PivotDefinition} (restorable : Restorable definitions)
    {dump : Value → Option String} {load : String → Except Yaml.Problem Value}
    (inverse : ∀ text, dump (write definitions) = some text → load text = .ok (write definitions)) :
    read (write definitions) = .ok ⟨definitions, []⟩ ∧
      (∃ text, toJson? definitions = some text ∧ ofJson text = .ok ⟨definitions, []⟩) ∧
      (∃ text, toYaml? definitions = some text) ∧
      ∀ text, toYamlBy? dump definitions = some text → ofYamlBy load text = .ok ⟨definitions, []⟩ := by
  have restored := restorable.read_write
  have simple := simple_write restorable.textual
  have document : readDocument (write definitions) = .ok ⟨definitions, []⟩ := by
    rw [readDocument, restored]
    rfl
  refine ⟨restored, ?_, Yaml.exists_write simple, ?_⟩
  · obtain ⟨text, written, found⟩ := Json.read?_write simple
    refine ⟨text, written, ?_⟩
    rw [ofJson, found]
    exact document
  · intro text written
    rw [ofYamlBy, inverse text written]
    exact document

theorem yaml_inverse_of_same {value : Value} (simple : value.Simple)
    (check : ((Yaml.write? value).all fun text =>
      (Yaml.read text).toOption.any fun found => found.same value) = true)
    (text : String) (written : Yaml.write? value = some text) : Yaml.read text = .ok value := by
  rw [written, Option.all_some] at check
  cases result : Yaml.read text with
  | error problem => simp [result, Except.toOption] at check
  | ok found =>
      rw [result] at check
      rw [simple.eq_of_same check]

def sparse : List PivotDefinition := [
  { name := "A"
    key := .text ""
    choices := [
      { name := "x" },
      { name := "y", description := .text "", aliases := ["q r"], condition := some "" }] }]

theorem read_write_restores_of_example :
    Restorable sparse ∧ read (write sparse) = .ok ⟨sparse, []⟩ ∧
      (∃ text, toJson? sparse = some text ∧ ofJson text = .ok ⟨sparse, []⟩) ∧
      ∃ text, toYaml? sparse = some text ∧ ofYaml text = .ok ⟨sparse, []⟩ := by
  have restorable : Restorable sparse := by decide +kernel
  have inverse := yaml_inverse_of_same (simple_write restorable.textual) (by decide +kernel)
  obtain ⟨document, json, ⟨text, written⟩, yaml⟩ := read_write_restores restorable inverse
  exact ⟨restorable, document, json, text, written, yaml text written⟩

end Variants.Config
