import Variants.Config.Basic
import Variants.Proofs.Outcome

/-!
Reading a configuration, said once for each of its parts: what is read of a choice's body, of a pivot's
body and of a whole document.
-/

namespace Variants

theorem Value.isShowable_int_iff {n : Int} :
    (int n).isShowable = true ↔ n.natAbs < Nat.pow 10 digitLimit := by
  -- For any limit, since the power of ten is too large to be computed.
  have bounded (limit : Nat) (positive : 0 < limit) :
      (Nat.toDigits 10 n.natAbs).length ≤ limit ↔ n.natAbs < Nat.pow 10 limit :=
    Nat.length_toDigits_le_iff (by decide) positive
  rw [isShowable, decide_eq_true_iff]
  exact bounded digitLimit (by decide)

theorem Value.areShowable_iff {items : List Value} :
    areShowable items = true ↔ ∀ item ∈ items, item.isShowable = true := by
  induction items with
  | nil => simp [areShowable]
  | cons item rest ih => rw [areShowable, Bool.and_eq_true, ih, List.forall_mem_cons]

theorem Noted.collect_map {α β : Type} (f : α → β) (items : List α) :
    collect (items.map fun item => ⟨f item, []⟩) = ⟨items.map f, []⟩ := by
  rw [collect, List.map_map, List.flatMap_map, List.flatMap_eq_nil_iff.mpr fun _ _ => rfl]
  rfl

namespace Config

def IsConfigError (problem : ReadError) : Prop :=
  ∃ cause, problem = .config cause

theorem checkShowable_eq_ok_iff {value : Value} {done : Unit} :
    checkShowable value = .ok done ↔ value.isShowable = true := by
  rw [checkShowable]
  split <;> simp_all

theorem checkShowable_eq_error_iff {value : Value} {problem : ReadError} :
    checkShowable value = .error problem ↔ ¬ value.isShowable = true ∧ .tooManyDigits = problem := by
  rw [checkShowable]
  cases value.isShowable with
  | true => simp
  | false => simp

theorem readTexts_of_eq_none {refusal : ConfigError} {value : Value} (refused : texts? value = none) :
    readTexts refusal value = .error (.config refusal) := by
  rw [readTexts, refused]
  rfl

theorem readTexts_of_eq_some {refusal : ConfigError} {value : Value} {texts : List String}
    (lists : texts? value = some texts) :
    readTexts refusal value = (checkShowable value).map fun _ => texts := by
  rw [readTexts, lists]
  rfl

theorem readTexts_eq_ok_iff {refusal : ConfigError} {value : Value} {texts : List String} :
    readTexts refusal value = .ok texts ↔ texts? value = some texts ∧ value.isShowable = true := by
  cases lists : texts? value with
  | none => simp [readTexts_of_eq_none lists]
  | some found =>
      rw [readTexts_of_eq_some lists, Outcome.map_eq_ok_iff]
      simp only [checkShowable_eq_ok_iff, Option.some.injEq]
      exact ⟨fun ⟨_, showable, same⟩ => ⟨same, showable⟩, fun ⟨same, showable⟩ => ⟨(), showable, same⟩⟩

theorem readTexts_eq_error_iff {refusal : ConfigError} {value : Value} {problem : ReadError} :
    readTexts refusal value = .error problem ↔
      texts? value = none ∧ .config refusal = problem ∨
        (∃ texts, texts? value = some texts) ∧ ¬ value.isShowable = true ∧ .tooManyDigits = problem := by
  cases lists : texts? value with
  | none => simp [readTexts_of_eq_none lists]
  | some texts =>
      rw [readTexts_of_eq_some lists, Outcome.map_eq_error_iff, checkShowable_eq_error_iff]
      simp

theorem reportIgnored_of_unordered {pivot name : String} {ignored : List Value}
    (unordered : Value.sortKeys? ignored = none) :
    reportIgnored pivot name ignored = .error .unorderedKeys := by
  have something : ignored.isEmpty = false := by
    cases ignored with
    | nil => contradiction
    | cons key rest => rfl
  rw [reportIgnored, something, unordered]
  rfl

theorem reportIgnored_of_sorted {pivot name : String} {ignored keys : List Value}
    (sorted : Value.sortKeys? ignored = some keys) :
    reportIgnored pivot name ignored =
      (checkShowable (.list keys)).map fun _ =>
        if ignored.isEmpty then [] else [ConfigWarning.choiceKeys pivot name keys] := by
  rw [reportIgnored]
  split
  · rename_i nothing
    rw [List.isEmpty_iff.mp nothing] at sorted
    cases sorted
    rfl
  · rw [sorted]
    rfl

theorem reportIgnored_eq_error_iff {pivot name : String} {ignored : List Value} {problem : ReadError} :
    reportIgnored pivot name ignored = .error problem ↔
      Value.sortKeys? ignored = none ∧ .unorderedKeys = problem ∨
        ∃ keys, Value.sortKeys? ignored = some keys ∧ ¬ (Value.list keys).isShowable = true ∧
          .tooManyDigits = problem := by
  cases sorted : Value.sortKeys? ignored with
  | none => simp [reportIgnored_of_unordered sorted]
  | some keys =>
      rw [reportIgnored_of_sorted sorted, Outcome.map_eq_error_iff, checkShowable_eq_error_iff]
      simp

theorem reportIgnored_eq_ok_iff {pivot name : String} {ignored : List Value}
    {warnings : List ConfigWarning} :
    reportIgnored pivot name ignored = .ok warnings ↔
      ∃ keys, Value.sortKeys? ignored = some keys ∧ (Value.list keys).isShowable = true ∧
        (if ignored.isEmpty then [] else [.choiceKeys pivot name keys]) = warnings := by
  cases sorted : Value.sortKeys? ignored with
  | none => simp [reportIgnored_of_unordered sorted]
  | some keys =>
      rw [reportIgnored_of_sorted sorted, Outcome.map_eq_ok_iff]
      simp [checkShowable_eq_ok_iff]

theorem reportIgnored_eq_nil_iff {pivot name : String} {ignored : List Value}
    {warnings : List ConfigWarning} (reported : reportIgnored pivot name ignored = .ok warnings) :
    warnings = [] ↔ ignored = [] := by
  obtain ⟨keys, _, _, rfl⟩ := reportIgnored_eq_ok_iff.mp reported
  split
  · rename_i nothing
    simp [List.isEmpty_iff.mp nothing]
  · rename_i something
    rw [List.isEmpty_iff] at something
    simp [something]

theorem readChoice_map_eq_ok_iff {pivot name : String} {entries : Entries}
    {found : Noted ChoiceDefinition} :
    readChoice pivot name (.map entries) = .ok found ↔
      ∃ warnings aliases, reportIgnored pivot name (unknownChoiceKeys entries) = .ok warnings ∧
        readTexts (.aliasesNotTexts pivot name) (Entries.field entries "aliases") = .ok aliases ∧
        (Entries.field entries "condition").isShowable = true ∧
        found = ⟨{ name, description := Entries.field entries "description", aliases,
                   condition := conditionText? (Entries.field entries "condition") }, warnings⟩ := by
  rw [readChoice]
  constructor
  · intro reads
    obtain ⟨warnings, reported, reads⟩ := Outcome.bind_eq_ok_iff.mp reads
    obtain ⟨aliases, listed, reads⟩ := Outcome.bind_eq_ok_iff.mp reads
    obtain ⟨_, showable, all⟩ := Outcome.bind_eq_ok_iff.mp reads
    cases all
    exact ⟨warnings, aliases, reported, listed, checkShowable_eq_ok_iff.mp showable, rfl⟩
  · rintro ⟨warnings, aliases, reported, listed, showable, rfl⟩
    refine Outcome.bind_eq_ok_iff.mpr ⟨warnings, reported, ?_⟩
    refine Outcome.bind_eq_ok_iff.mpr ⟨aliases, listed, ?_⟩
    exact Outcome.bind_eq_ok_iff.mpr ⟨(), checkShowable_eq_ok_iff.mpr showable, rfl⟩

theorem listedChoices_eq_ok_iff {pivot : String} {entries : Entries} {choices : List String} :
    listedChoices pivot entries = .ok choices ↔
      ∃ names, readTexts (.choicesNotTexts pivot) (Entries.field entries "choices") = .ok names ∧
        (Value.list (entries.map (·.1))).isShowable = true ∧ names.eraseDups = choices := by
  rw [listedChoices]
  constructor
  · intro lists
    obtain ⟨names, listed, lists⟩ := Outcome.bind_eq_ok_iff.mp lists
    obtain ⟨_, showable, all⟩ := Outcome.bind_eq_ok_iff.mp lists
    cases all
    exact ⟨names, listed, checkShowable_eq_ok_iff.mp showable, rfl⟩
  · rintro ⟨names, listed, showable, rfl⟩
    refine Outcome.bind_eq_ok_iff.mpr ⟨names, listed, ?_⟩
    exact Outcome.bind_eq_ok_iff.mpr ⟨(), checkShowable_eq_ok_iff.mpr showable, rfl⟩

theorem readPivot_map {name : String} {entries : Entries} {choices : List String}
    (lists : listedChoices name entries = .ok choices) :
    readPivot name (.map entries) =
      (choices.mapM fun choice => readChoice name choice (Entries.field (bodies entries) choice)).map
        fun each =>
          ⟨{ name, key := Entries.field entries "key",
             description := Entries.field entries "description",
             choices := (Noted.collect each).value },
           (unknownPivotKeys entries choices).map (.pivotKey name) ++ (Noted.collect each).warnings⟩ := by
  rw [readPivot, lists]
  rfl

theorem readPivot_map_eq_ok_iff {name : String} {entries : Entries} {found : Noted PivotDefinition} :
    readPivot name (.map entries) = .ok found ↔
      ∃ choices each,
        readTexts (.choicesNotTexts name) (Entries.field entries "choices") = .ok choices ∧
        (Value.list (entries.map (·.1))).isShowable = true ∧
        (choices.eraseDups.mapM fun choice =>
          readChoice name choice (Entries.field (bodies entries) choice)) = .ok each ∧
        found = ⟨{ name, key := Entries.field entries "key",
                   description := Entries.field entries "description", choices := each.map (·.value) },
                 (unknownPivotKeys entries choices.eraseDups).map (.pivotKey name) ++
                   each.flatMap (·.warnings)⟩ := by
  constructor
  · intro reads
    obtain ⟨listed, lists, _⟩ := Outcome.bind_eq_ok_iff.mp reads
    rw [readPivot_map lists] at reads
    obtain ⟨each, readEach, rfl⟩ := Outcome.map_eq_ok_iff.mp reads
    obtain ⟨choices, choicesRead, showable, rfl⟩ := listedChoices_eq_ok_iff.mp lists
    exact ⟨choices, each, choicesRead, showable, readEach, rfl⟩
  · rintro ⟨choices, each, choicesRead, showable, readEach, rfl⟩
    rw [readPivot_map (listedChoices_eq_ok_iff.mpr ⟨choices, choicesRead, showable, rfl⟩)]
    exact Outcome.map_eq_ok_iff.mpr ⟨each, readEach, rfl⟩

theorem readEntry_eq_ok_iff {entry : Value × Value} {found : Noted PivotDefinition} :
    readEntry entry = .ok found ↔
      entry.1.isShowable = true ∧ readPivot entry.1.toText entry.2 = .ok found := by
  rw [readEntry, Outcome.bind_eq_ok_iff]
  simp [checkShowable_eq_ok_iff]

/-- The entries of a document that declare its pivots. -/
def pivotEntries? : Value → Option Entries
  | .null => some []
  | .map entries =>
    if isWrapped entries then
      match (Entries.field entries wrapper).orElse (.map []) with
      | .map inner => some inner
      | _ => none
    else some entries
  | _ => none

theorem read_cases (document : Value) :
    (∃ entries, pivotEntries? document = some entries ∧ read document = readEntries entries) ∨
      (pivotEntries? document = none ∧ ∃ cause, read document = .error (.config cause)) := by
  cases document with
  | null => exact .inl ⟨[], rfl, rfl⟩
  | map whole =>
      rw [pivotEntries?, read]
      split
      · cases (Entries.field whole wrapper).orElse (.map []) with
        | map inner => exact .inl ⟨inner, rfl, rfl⟩
        | _ => exact .inr ⟨rfl, _, rfl⟩
      · exact .inl ⟨whole, rfl, rfl⟩
  | _ => exact .inr ⟨rfl, _, rfl⟩

end Config

end Variants
