import Variants.Proofs.Config.Reading
import Variants.Proofs.Document.Entries
import Variants.Proofs.Pivot

/-!
Reading back what is written of one pivot. Its fields and the bodies of its choices share one mapping, so
they are found again unless a choice with a body bears the name of a field.
-/

namespace Variants

/-- A pivot that a mapping can hold. A choice that is declared again has only its name there, and so has a
choice that bears the name of a field. -/
structure PivotDefinition.Storable (pivot : PivotDefinition) : Prop where
  repeated : pivot.choices.Pairwise fun first later => first.name = later.name → later.Bare
  key : ∀ choice ∈ pivot.choices, choice.name = "key" → choice.Bare
  description : ∀ choice ∈ pivot.choices, choice.name = "description" → choice.Bare

instance : DecidablePred PivotDefinition.Storable :=
  fun pivot => decidable_of_iff
    ((pivot.choices.Pairwise fun first later => first.name = later.name → later.Bare) ∧
      (∀ choice ∈ pivot.choices, choice.name = "key" → choice.Bare) ∧
      ∀ choice ∈ pivot.choices, choice.name = "description" → choice.Bare)
    ⟨fun ⟨repeated, key, description⟩ => ⟨repeated, key, description⟩,
      fun storable => ⟨storable.repeated, storable.key, storable.description⟩⟩

namespace Config

theorem texts?_ofTexts (texts : List String) : texts? (Value.ofTexts texts) = some texts := by
  have plain : (texts.map Value.text).all isPlain = true := by simp [isPlain]
  rw [Value.ofTexts, texts?, if_pos plain, List.map_map]
  exact congrArg some (List.map_id texts)

theorem isShowable_ofTexts (texts : List String) : (Value.ofTexts texts).isShowable = true := by
  apply Value.areShowable_iff.mpr
  intro item member
  obtain ⟨text, _, rfl⟩ := List.mem_map.mp member
  rfl

theorem entryUnlessNull_cases (name : String) (value : Value) :
    value = .null ∧ entryUnlessNull name value = [] ∨
      entryUnlessNull name value = [(.text name, value)] := by
  cases value with
  | null => exact .inl ⟨rfl, rfl⟩
  | _ => exact .inr rfl

theorem key_of_mem_entryUnlessNull {name : String} {value : Value} {entry : Value × Value}
    (member : entry ∈ entryUnlessNull name value) : entry.1 = .text name := by
  rcases entryUnlessNull_cases name value with ⟨_, nothing⟩ | single
  · simp [nothing] at member
  · rw [single, List.mem_singleton] at member
    rw [member]

theorem get?_entryUnlessNull (name : String) (value : Value) :
    ((entryUnlessNull name value).get? (.text name)).getD .null = value := by
  rcases entryUnlessNull_cases name value with ⟨rfl, nothing⟩ | single
  · rfl
  · rw [single, Entries.get?_text_cons, if_pos rfl]
    rfl

theorem get?_entryUnlessNull_of_ne {known name : String} (differ : known ≠ name) (value : Value) :
    (entryUnlessNull known value).get? (.text name) = none := by
  rcases entryUnlessNull_cases known value with ⟨_, nothing⟩ | single
  · rw [nothing]
    rfl
  · rw [single, Entries.get?_text_cons, if_neg differ]
    rfl

theorem key_of_mem_choiceEntries {choice : ChoiceDefinition} {entry : Value × Value}
    (member : entry ∈ choiceEntries choice) : ∃ name ∈ choiceKeys, entry.1 = .text name := by
  rw [choiceEntries, List.mem_append, List.mem_append] at member
  rcases member with (description | aliases) | condition
  · exact ⟨"description", by decide, key_of_mem_entryUnlessNull description⟩
  · split at aliases
    · simp at aliases
    · exact ⟨"aliases", by decide, by rw [List.mem_singleton.mp aliases]⟩
  · cases given : choice.condition with
    | none => simp [given] at condition
    | some text =>
        rw [given] at condition
        exact ⟨"condition", by decide, by rw [List.mem_singleton.mp condition]⟩

theorem unknownChoiceKeys_choiceEntries (choice : ChoiceDefinition) :
    unknownChoiceKeys (choiceEntries choice) = [] := by
  rw [unknownChoiceKeys, List.filter_eq_nil_iff]
  intro key member
  obtain ⟨entry, held, rfl⟩ := List.mem_map.mp member
  obtain ⟨name, known, named⟩ := key_of_mem_choiceEntries held
  have listed : choiceKeys.any (fun name => entry.1.same (.text name)) = true :=
    List.any_eq_true.mpr ⟨name, known, Value.same_text_iff.mpr named⟩
  simp [listed]

theorem readChoice_choiceEntries (pivot : String) (choice : ChoiceDefinition) :
    readChoice pivot choice.name (.map (choiceEntries choice)) = .ok ⟨choice, []⟩ := by
  rcases choice with ⟨name, description, aliases, condition⟩
  have descriptionRead :
      Entries.field (choiceEntries ⟨name, description, aliases, condition⟩) "description" =
        description := by
    rw [Entries.field, choiceEntries, Entries.get?_append, Entries.get?_append]
    cases aliases <;> cases condition <;>
      simp [Entries.get?_text_cons, Entries.get?_nil, get?_entryUnlessNull]
  have aliasesRead :
      readTexts (.aliasesNotTexts pivot name)
        (Entries.field (choiceEntries ⟨name, description, aliases, condition⟩) "aliases") = .ok aliases := by
    rw [readTexts_eq_ok_iff, Entries.field, choiceEntries, Entries.get?_append, Entries.get?_append,
      get?_entryUnlessNull_of_ne (by decide)]
    cases aliases with
    | nil =>
        cases condition <;>
          simp [Entries.get?_text_cons, Entries.get?_nil, texts?, Value.isShowable]
    | cons first rest => simp [Entries.get?_text_cons, texts?_ofTexts, isShowable_ofTexts]
  have conditionField :
      Entries.field (choiceEntries ⟨name, description, aliases, condition⟩) "condition" =
        (condition.map Value.text).getD .null := by
    rw [Entries.field, choiceEntries, Entries.get?_append, Entries.get?_append,
      get?_entryUnlessNull_of_ne (by decide)]
    cases aliases <;> cases condition <;> simp [Entries.get?_text_cons, Entries.get?_nil]
  rw [readChoice_map_eq_ok_iff, unknownChoiceKeys_choiceEntries, descriptionRead, conditionField]
  cases condition with
  | none => exact ⟨[], aliases, rfl, aliasesRead, rfl, rfl⟩
  | some text => exact ⟨[], aliases, rfl, aliasesRead, rfl, rfl⟩

theorem choiceEntries_eq_nil_iff {choice : ChoiceDefinition} : choiceEntries choice = [] ↔ choice.Bare := by
  constructor
  · intro nothing
    have found := readChoice_choiceEntries "" choice
    rw [nothing] at found
    have same : ({ name := choice.name } : ChoiceDefinition) = choice :=
      congrArg Noted.value (Except.ok.inj found)
    rw [← same]
    exact ⟨rfl, rfl, rfl⟩
  · intro bare
    rw [choiceEntries, bare.description, bare.aliases, bare.condition]
    rfl

theorem readChoice_written (pivot : String) (choice : ChoiceDefinition) :
    readChoice pivot choice.name
      (if choiceEntries choice = [] then .null else .map (choiceEntries choice)) = .ok ⟨choice, []⟩ := by
  split
  · rename_i bare
    rw [← readChoice_choiceEntries pivot choice, bare]
    rfl
  · exact readChoice_choiceEntries pivot choice

/-- The body that is written under a name, the last of the choices with that name. -/
def storedBody? (choices : List ChoiceDefinition) (name : String) : Option Value :=
  (Entries.ofList (choices.flatMap choiceBody)).get? (.text name)

theorem storedBody?_cons (choice : ChoiceDefinition) (rest : List ChoiceDefinition) (name : String) :
    storedBody? (choice :: rest) name =
      (storedBody? rest name).or
        (if choice.name = name ∧ choiceEntries choice ≠ [] then some (.map (choiceEntries choice))
          else none) := by
  rw [storedBody?, List.flatMap_cons, Entries.get?_ofList_append, ← storedBody?, choiceBody]
  congr 1
  cases choiceEntries choice with
  | nil => simp [Entries.ofList, Entries.get?_nil]
  | cons entry others => simp [Entries.ofList, Entries.put, Entries.get?_text_cons, Entries.get?_nil]

theorem storedBody?_cases (choices : List ChoiceDefinition) (name : String) :
    storedBody? choices name = none ∨ ∃ entries, storedBody? choices name = some (.map entries) := by
  induction choices with
  | nil => exact .inl rfl
  | cons choice rest ih =>
      rw [storedBody?_cons]
      rcases ih with nothing | ⟨entries, found⟩
      · rw [nothing, Option.none_or]
        split
        · exact .inr ⟨_, rfl⟩
        · exact .inl rfl
      · rw [found]
        exact .inr ⟨entries, rfl⟩

theorem storedBody?_eq_none {choices : List ChoiceDefinition} {name : String}
    (bare : ∀ choice ∈ choices, choice.name = name → choice.Bare) :
    storedBody? choices name = none := by
  induction choices with
  | nil => rfl
  | cons choice rest ih =>
      obtain ⟨here, later⟩ := List.forall_mem_cons.mp bare
      have nothing : ¬ (choice.name = name ∧ choiceEntries choice ≠ []) := fun ⟨named, kept⟩ =>
        kept (choiceEntries_eq_nil_iff.mpr (here named))
      rw [storedBody?_cons, ih later, if_neg nothing]
      rfl

theorem storedBody?_of_mem_firstDeclared {choices : List ChoiceDefinition}
    (repeated : choices.Pairwise fun first later => first.name = later.name → later.Bare)
    {choice : ChoiceDefinition} (member : choice ∈ firstDeclared choices) :
    storedBody? choices choice.name =
      if choiceEntries choice = [] then none else some (.map (choiceEntries choice)) := by
  have declared := find?_of_mem_firstDeclared member
  clear member
  induction choices with
  | nil => simp at declared
  | cons first rest ih =>
      obtain ⟨firstCounts, others⟩ := List.pairwise_cons.mp repeated
      rw [storedBody?_cons]
      by_cases named : first.name = choice.name
      -- The choice is declared here, and what follows holds no body of that name.
      · have same : first = choice := by
          rw [List.find?_cons_of_pos (by simpa using named)] at declared
          exact Option.some.inj declared
        have nothing : storedBody? rest choice.name = none := by
          apply storedBody?_eq_none
          intro other member namesake
          exact firstCounts other member (named.trans namesake.symm)
        rw [nothing, same, Option.none_or]
        by_cases bare : choiceEntries choice = [] <;> simp [bare]
      · rw [List.find?_cons_of_neg (by simpa using named)] at declared
        have skipped : ¬ (first.name = choice.name ∧ choiceEntries first ≠ []) := fun given => named given.1
        rw [ih others declared, if_neg skipped, Option.or_none]

def fieldEntries (pivot : PivotDefinition) : Entries :=
  (.text "choices", Value.ofTexts (pivot.choices.map (·.name))) ::
    (entryUnlessNull "key" pivot.key ++ entryUnlessNull "description" pivot.description)

def rawEntries (pivot : PivotDefinition) : Entries :=
  fieldEntries pivot ++ pivot.choices.flatMap choiceBody

def pivotEntries (pivot : PivotDefinition) : Entries :=
  Entries.ofList (rawEntries pivot)

theorem writePivot_eq (pivot : PivotDefinition) : writePivot pivot = .map (pivotEntries pivot) := by
  rw [writePivot, pivotEntries, rawEntries, fieldEntries]
  simp

theorem key_of_mem_fieldEntries {pivot : PivotDefinition} {entry : Value × Value}
    (member : entry ∈ fieldEntries pivot) : ∃ name ∈ pivotKeys, entry.1 = .text name := by
  rcases List.mem_cons.mp member with rfl | field
  · exact ⟨"choices", by decide, rfl⟩
  · rcases List.mem_append.mp field with key | description
    · exact ⟨"key", by decide, key_of_mem_entryUnlessNull key⟩
    · exact ⟨"description", by decide, key_of_mem_entryUnlessNull description⟩

theorem ofList_fieldEntries (pivot : PivotDefinition) :
    Entries.ofList (fieldEntries pivot) = fieldEntries pivot := by
  apply Entries.ofList_of_nodup
  · intro entry member
    obtain ⟨name, _, named⟩ := key_of_mem_fieldEntries member
    exact ⟨name, named⟩
  · rw [fieldEntries]
    rcases entryUnlessNull_cases "key" pivot.key with ⟨_, key⟩ | key <;>
      rcases entryUnlessNull_cases "description" pivot.description with ⟨_, description⟩ | description <;>
      simp [key, description]

theorem field_pivotEntries (pivot : PivotDefinition) (name : String) :
    Entries.field (pivotEntries pivot) name =
      ((storedBody? pivot.choices name).or ((fieldEntries pivot).get? (.text name))).getD .null := by
  rw [Entries.field, pivotEntries, rawEntries, Entries.get?_ofList_append, ofList_fieldEntries,
    storedBody?]

theorem get?_fieldEntries_of_not_mem {pivot : PivotDefinition} {name : String}
    (unreserved : name ∉ pivotKeys) : (fieldEntries pivot).get? (.text name) = none := by
  simp only [pivotKeys, List.mem_cons, List.not_mem_nil, or_false, not_or] at unreserved
  rw [fieldEntries, Entries.get?_text_cons, if_neg (Ne.symm unreserved.2.2), Entries.get?_append,
    get?_entryUnlessNull_of_ne (Ne.symm unreserved.1), get?_entryUnlessNull_of_ne (Ne.symm unreserved.2.1)]
  rfl

theorem get?_fieldEntries_choices (pivot : PivotDefinition) :
    (fieldEntries pivot).get? (.text "choices") = some (Value.ofTexts (pivot.choices.map (·.name))) := by
  rw [fieldEntries, Entries.get?_text_cons, if_pos rfl]

theorem get?_fieldEntries_key (pivot : PivotDefinition) :
    ((fieldEntries pivot).get? (.text "key")).getD .null = pivot.key := by
  rw [fieldEntries, Entries.get?_text_cons, if_neg (by decide), Entries.get?_append,
    get?_entryUnlessNull_of_ne (by decide : "description" ≠ "key"), Option.or_none,
    get?_entryUnlessNull]

theorem get?_fieldEntries_description (pivot : PivotDefinition) :
    ((fieldEntries pivot).get? (.text "description")).getD .null = pivot.description := by
  rw [fieldEntries, Entries.get?_text_cons, if_neg (by decide), Entries.get?_append,
    get?_entryUnlessNull_of_ne (by decide : "key" ≠ "description"), Option.none_or,
    get?_entryUnlessNull]

theorem key_of_mem_rawEntries {pivot : PivotDefinition} {entry : Value × Value}
    (member : entry ∈ rawEntries pivot) :
    ∃ name, entry.1 = .text name ∧ (name ∈ pivotKeys ∨ name ∈ pivot.choices.map (·.name)) := by
  rcases List.mem_append.mp member with field | body
  · obtain ⟨name, reserved, named⟩ := key_of_mem_fieldEntries field
    exact ⟨name, named, .inl reserved⟩
  · obtain ⟨choice, declared, body⟩ := List.mem_flatMap.mp body
    rw [choiceBody] at body
    split at body
    · simp at body
    · exact ⟨choice.name, by rw [List.mem_singleton.mp body], .inr (List.mem_map_of_mem declared)⟩

theorem texts_rawEntries (pivot : PivotDefinition) : (rawEntries pivot).Texts := by
  intro entry member
  obtain ⟨name, named, _⟩ := key_of_mem_rawEntries member
  exact ⟨name, named⟩

theorem bodies_of_texts {entries : Entries} (texts : entries.Texts) :
    bodies entries = Entries.ofList entries := by
  have same : ∀ entry ∈ entries, ((Value.text entry.1.toText, entry.2) : Value × Value) = entry := by
    intro entry member
    obtain ⟨name, named⟩ := texts entry member
    rcases entry with ⟨key, item⟩
    cases named
    rfl
  rw [bodies, List.map_congr_left same, List.map_id']

theorem bodies_pivotEntries (pivot : PivotDefinition) : bodies (pivotEntries pivot) = pivotEntries pivot := by
  rw [pivotEntries, bodies_of_texts (texts_rawEntries pivot).ofList,
    Entries.ofList_ofList (texts_rawEntries pivot)]

theorem unknownPivotKeys_pivotEntries (pivot : PivotDefinition) :
    unknownPivotKeys (pivotEntries pivot) ((firstDeclared pivot.choices).map (·.name)) = [] := by
  rw [unknownPivotKeys, bodies_pivotEntries, List.filter_eq_nil_iff]
  intro key member
  obtain ⟨entry, held, rfl⟩ := List.mem_map.mp member
  obtain ⟨name, named, known⟩ :=
    key_of_mem_rawEntries (Entries.mem_of_mem_ofList (texts_rawEntries pivot) entry held)
  rw [named, Value.toText]
  rcases known with reserved | declared
  · simp [reserved]
  · have listed := List.contains_iff_mem.mpr (mem_names_firstDeclared.mpr declared)
    rw [listed, Bool.not_true, Bool.and_false]
    exact Bool.false_ne_true

theorem isShowable_keys_of_texts {entries : Entries} (texts : entries.Texts) :
    (Value.list (entries.map (·.1))).isShowable = true := by
  apply Value.areShowable_iff.mpr
  intro key member
  obtain ⟨entry, held, rfl⟩ := List.mem_map.mp member
  obtain ⟨name, named⟩ := texts entry held
  rw [named]
  rfl

theorem listedChoices_pivotEntries {pivot : PivotDefinition}
    (kept : storedBody? pivot.choices "choices" = none) :
    listedChoices pivot.name (pivotEntries pivot) =
      .ok ((firstDeclared pivot.choices).map (·.name)) := by
  have choices : Entries.field (pivotEntries pivot) "choices" =
      Value.ofTexts (pivot.choices.map (·.name)) := by
    rw [field_pivotEntries, kept, Option.none_or, get?_fieldEntries_choices, Option.getD_some]
  rw [listedChoices_eq_ok_iff, choices]
  refine ⟨pivot.choices.map (·.name), ?_, isShowable_keys_of_texts (texts_rawEntries pivot).ofList, ?_⟩
  · exact readTexts_eq_ok_iff.mpr ⟨texts?_ofTexts _, isShowable_ofTexts _⟩
  · rw [← names_firstDeclared]

theorem readChoice_get?_fieldEntries {pivot : PivotDefinition} (textual : pivot.Textual) (name : String) :
    ((fieldEntries pivot).get? (.text name)).getD .null = .null ∨
      readChoice pivot.name name (((fieldEntries pivot).get? (.text name)).getD .null) =
        .error (.config (.choiceNotMapping pivot.name name)) := by
  by_cases choices : name = "choices"
  · rw [choices, get?_fieldEntries_choices]
    exact .inr rfl
  by_cases key : name = "key"
  · rw [key, get?_fieldEntries_key]
    rcases textual.key with missing | ⟨text, given⟩
    · exact .inl missing
    · rw [given]
      exact .inr rfl
  by_cases description : name = "description"
  · rw [description, get?_fieldEntries_description]
    rcases textual.description with missing | ⟨text, given⟩
    · exact .inl missing
    · rw [given]
      exact .inr rfl
  · rw [get?_fieldEntries_of_not_mem (by simp [pivotKeys, choices, key, description])]
    exact .inl rfl

theorem readChoice_pivotEntries {pivot : PivotDefinition} (textual : pivot.Textual)
    (storable : pivot.Storable) {choice : ChoiceDefinition}
    (member : choice ∈ firstDeclared pivot.choices) :
    readChoice pivot.name choice.name (Entries.field (pivotEntries pivot) choice.name) =
        .ok ⟨choice, []⟩ ∨
      choice.name ∈ pivotKeys ∧ ∃ problem, IsConfigError problem ∧
        readChoice pivot.name choice.name (Entries.field (pivotEntries pivot) choice.name) =
          .error problem := by
  rw [field_pivotEntries, storedBody?_of_mem_firstDeclared storable.repeated member]
  have written := readChoice_written pivot.name choice
  split at written
  · rename_i bare
    rw [if_pos bare, Option.none_or]
    rcases readChoice_get?_fieldEntries textual choice.name with missing | refused
    · rw [missing]
      exact .inl written
    · by_cases reserved : choice.name ∈ pivotKeys
      · exact .inr ⟨reserved, _, ⟨_, rfl⟩, refused⟩
      · rw [get?_fieldEntries_of_not_mem reserved]
        exact .inl written
  · rename_i body
    rw [if_neg body]
    exact .inl written

theorem mapM_readChoice_pivotEntries {pivot : PivotDefinition} (textual : pivot.Textual)
    (storable : pivot.Storable) :
    ((firstDeclared pivot.choices).map (·.name)).mapM (fun choice =>
        readChoice pivot.name choice (Entries.field (bodies (pivotEntries pivot)) choice)) =
        .ok ((firstDeclared pivot.choices).map fun choice => ⟨choice, []⟩) ∨
      (∃ choice ∈ firstDeclared pivot.choices, choice.name ∈ pivotKeys) ∧
        ∃ problem, IsConfigError problem ∧
          ((firstDeclared pivot.choices).map (·.name)).mapM (fun choice =>
            readChoice pivot.name choice (Entries.field (bodies (pivotEntries pivot)) choice)) =
            .error problem := by
  rw [List.mapM_map, bodies_pivotEntries]
  exact Outcome.mapM_cases fun choice member => readChoice_pivotEntries textual storable member

/-- A written pivot is read back with its choices as they are declared first, or it is refused for a choice
that bears the name of a field. -/
theorem readPivot_writePivot {pivot : PivotDefinition} (textual : pivot.Textual)
    (storable : pivot.Storable) :
    readPivot pivot.name (writePivot pivot) = .ok ⟨pivot.declaredFirst, []⟩ ∨
      (∃ choice ∈ pivot.choices, choice.name ∈ pivotKeys) ∧
        ∃ problem, IsConfigError problem ∧ readPivot pivot.name (writePivot pivot) = .error problem := by
  rw [writePivot_eq]
  rcases storedBody?_cases pivot.choices "choices" with kept | ⟨entries, taken⟩
  · have keyRead : Entries.field (pivotEntries pivot) "key" = pivot.key := by
      rw [field_pivotEntries, storedBody?_eq_none storable.key, Option.none_or, get?_fieldEntries_key]
    have descriptionRead : Entries.field (pivotEntries pivot) "description" = pivot.description := by
      rw [field_pivotEntries, storedBody?_eq_none storable.description, Option.none_or,
        get?_fieldEntries_description]
    rw [readPivot_map (listedChoices_pivotEntries kept), unknownPivotKeys_pivotEntries, keyRead,
      descriptionRead]
    rcases mapM_readChoice_pivotEntries textual storable with succeeds | ⟨shared, problem, known, fails⟩
    · rw [succeeds, Except.map, Noted.collect_map fun choice => choice, List.map_id']
      exact .inl rfl
    · rw [fails]
      obtain ⟨choice, member, reserved⟩ := shared
      have declared := List.mem_of_find?_eq_some (find?_of_mem_firstDeclared member)
      exact .inr ⟨⟨choice, declared, reserved⟩, problem, known, rfl⟩
  -- A body in the place of the list of choices is no list of texts.
  · have shared : ∃ choice ∈ pivot.choices, choice.name = "choices" := by
      apply Classical.byContradiction
      intro absent
      rw [storedBody?_eq_none fun choice member named => absurd ⟨choice, member, named⟩ absent] at taken
      contradiction
    obtain ⟨choice, member, named⟩ := shared
    have refused : readPivot pivot.name (.map (pivotEntries pivot)) =
        .error (.config (.choicesNotTexts pivot.name)) := by
      rw [readPivot, listedChoices, field_pivotEntries, taken]
      rfl
    exact .inr ⟨⟨choice, member, by rw [named]; decide⟩, _, ⟨_, rfl⟩, refused⟩

end Config

end Variants
