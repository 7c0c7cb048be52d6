import Variants.Proofs.Config.Reading
import Variants.Proofs.Document.KeyOrder

/-!
How reading a configuration fails. It goes through pivots and their choices in order and stops at the
first that it refuses. A refusal names its cause, but for what reading demands without a check of its own:
the keys that are ignored in a choice's body are reported in order, and keys of two kinds have none; and
what is taken for a text must have one.
-/

namespace Variants.Config

/-- What reading counts on: that keys have an order, or that a value has a text. -/
inductive Demand
  | ordered (keys : List Value)
  | showable (value : Value)

namespace Demand

def Met : Demand → Prop
  | ordered keys => Value.Sortable keys
  | showable value => value.isShowable = true

def failure : Demand → ReadError
  | ordered _ => .unorderedKeys
  | showable _ => .tooManyDigits

theorem not_isConfigError_failure (demand : Demand) : ¬ IsConfigError demand.failure := by
  rintro ⟨cause, explained⟩
  cases demand <;> contradiction

end Demand

/-- What reading the body of a choice demands once it comes to demand it. -/
inductive ChoiceDemands : Value → Demand → Prop
  | order {entries : Entries} : ChoiceDemands (.map entries) (.ordered (unknownChoiceKeys entries))
  | ignored {entries : Entries} {keys : List Value}
      (sorted : Value.sortKeys? (unknownChoiceKeys entries) = some keys) :
      ChoiceDemands (.map entries) (.showable (.list keys))
  | aliases {entries : Entries} {keys : List Value} {texts : List String}
      (sorted : Value.sortKeys? (unknownChoiceKeys entries) = some keys)
      (shown : (Value.list keys).isShowable = true)
      (lists : texts? (Entries.field entries "aliases") = some texts) :
      ChoiceDemands (.map entries) (.showable (Entries.field entries "aliases"))
  | condition {entries : Entries} {keys : List Value} {texts : List String}
      (sorted : Value.sortKeys? (unknownChoiceKeys entries) = some keys)
      (shown : (Value.list keys).isShowable = true)
      (lists : texts? (Entries.field entries "aliases") = some texts)
      (listed : (Entries.field entries "aliases").isShowable = true) :
      ChoiceDemands (.map entries) (.showable (Entries.field entries "condition"))

/-- What reading the body of a pivot demands, of its choices once those before them are read. -/
inductive PivotDemands (name : String) : Value → Demand → Prop
  | choices {entries : Entries} {texts : List String}
      (lists : texts? (Entries.field entries "choices") = some texts) :
      PivotDemands name (.map entries) (.showable (Entries.field entries "choices"))
  | keys {entries : Entries} {texts : List String}
      (lists : texts? (Entries.field entries "choices") = some texts)
      (listed : (Entries.field entries "choices").isShowable = true) :
      PivotDemands name (.map entries) (.showable (.list (entries.map (·.1))))
  | choice {entries : Entries} {texts earlier later : List String} {choice : String} {demand : Demand}
      (lists : texts? (Entries.field entries "choices") = some texts)
      (listed : (Entries.field entries "choices").isShowable = true)
      (keyed : (Value.list (entries.map (·.1))).isShowable = true)
      (split : texts.eraseDups = earlier ++ choice :: later)
      (readEarlier : ∀ other ∈ earlier, ∃ found,
        readChoice name other (Entries.field (bodies entries) other) = .ok found)
      (demands : ChoiceDemands (Entries.field (bodies entries) choice) demand) :
      PivotDemands name (.map entries) demand

inductive EntryDemands : Value × Value → Demand → Prop
  | name {name pivot : Value} : EntryDemands (name, pivot) (.showable name)
  | pivot {name pivot : Value} {demand : Demand} (named : name.isShowable = true)
      (demands : PivotDemands name.toText pivot demand) : EntryDemands (name, pivot) demand

/-- What reading a document demands, of its pivots once those before them are read. -/
inductive Demands (document : Value) (demand : Demand) : Prop
  | intro {before after : Entries} {entry : Value × Value}
      (pivots : pivotEntries? document = some (before ++ entry :: after))
      (readBefore : ∀ other ∈ before, ∃ found, readEntry other = .ok found)
      (demands : EntryDemands entry demand)

def FailsAt (demands : Demand → Prop) (problem : ReadError) : Prop :=
  ∃ demand, demands demand ∧ ¬ demand.Met ∧ demand.failure = problem

section

variable {problem : ReadError} (unexplained : ¬ IsConfigError problem)

include unexplained

theorem readTexts_fails_iff {refusal : ConfigError} {value : Value} :
    readTexts refusal value = .error problem ↔
      (∃ texts, texts? value = some texts) ∧ ¬ value.isShowable = true ∧ .tooManyDigits = problem := by
  rw [readTexts_eq_error_iff, or_iff_right]
  exact fun refused => unexplained ⟨refusal, refused.2.symm⟩

theorem readChoice_fails_iff {pivot name : String} {body : Value} :
    readChoice pivot name body = .error problem ↔
      FailsAt (ChoiceDemands body) problem := by
  constructor
  · intro fails
    cases body with
    | map entries =>
        rw [readChoice] at fails
        rcases Outcome.bind_eq_error_iff.mp fails with ignored | ⟨warnings, reported, fails⟩
        · rcases reportIgnored_eq_error_iff.mp ignored with ⟨unordered, same⟩ | ⟨keys, sorted, long, same⟩
          · exact ⟨_, .order, Value.sortKeys?_eq_none_iff.mp unordered, same⟩
          · exact ⟨_, .ignored sorted, long, same⟩
        obtain ⟨keys, sorted, shown, _⟩ := reportIgnored_eq_ok_iff.mp reported
        rcases Outcome.bind_eq_error_iff.mp fails with aliases | ⟨texts, read, fails⟩
        · obtain ⟨⟨texts, lists⟩, long, same⟩ := (readTexts_fails_iff unexplained).mp aliases
          exact ⟨_, .aliases sorted shown lists, long, same⟩
        · obtain ⟨lists, listed⟩ := readTexts_eq_ok_iff.mp read
          obtain ⟨long, same⟩ := checkShowable_eq_error_iff.mp (Outcome.map_eq_error_iff.mp fails)
          exact ⟨_, .condition sorted shown lists listed, long, same⟩
    | null => contradiction
    | _ => exact absurd ⟨_, (Except.error.inj fails).symm⟩ unexplained
  -- The steps before a demand succeed, since it is only made once the earlier ones are met.
  · rintro ⟨demand, demands, unmet, rfl⟩
    cases demands with
    | order =>
        refine Outcome.bind_eq_error_iff.mpr (.inl ?_)
        exact reportIgnored_eq_error_iff.mpr (.inl ⟨Value.sortKeys?_eq_none_iff.mpr unmet, rfl⟩)
    | ignored sorted =>
        refine Outcome.bind_eq_error_iff.mpr (.inl ?_)
        exact reportIgnored_eq_error_iff.mpr (.inr ⟨_, sorted, unmet, rfl⟩)
    | aliases sorted shown lists =>
        have reported : reportIgnored pivot name _ = .ok _ :=
          reportIgnored_eq_ok_iff.mpr ⟨_, sorted, shown, rfl⟩
        refine Outcome.bind_eq_error_iff.mpr (.inr ⟨_, reported, ?_⟩)
        refine Outcome.bind_eq_error_iff.mpr (.inl ?_)
        exact (readTexts_fails_iff unexplained).mpr ⟨⟨_, lists⟩, unmet, rfl⟩
    | condition sorted shown lists listed =>
        have reported : reportIgnored pivot name _ = .ok _ :=
          reportIgnored_eq_ok_iff.mpr ⟨_, sorted, shown, rfl⟩
        refine Outcome.bind_eq_error_iff.mpr (.inr ⟨_, reported, ?_⟩)
        refine Outcome.bind_eq_error_iff.mpr (.inr ⟨_, readTexts_eq_ok_iff.mpr ⟨lists, listed⟩, ?_⟩)
        exact Outcome.bind_eq_error_iff.mpr (.inl (checkShowable_eq_error_iff.mpr ⟨unmet, rfl⟩))

theorem readPivot_fails_iff {name : String} {pivot : Value} :
    readPivot name pivot = .error problem ↔ FailsAt (PivotDemands name pivot) problem := by
  constructor
  · intro fails
    cases pivot with
    | map entries =>
        rw [readPivot] at fails
        rcases Outcome.bind_eq_error_iff.mp fails with unlisted | ⟨choices, named, fails⟩
        · rcases Outcome.bind_eq_error_iff.mp unlisted with texts | ⟨texts, read, fails⟩
          · obtain ⟨⟨texts, lists⟩, long, same⟩ := (readTexts_fails_iff unexplained).mp texts
            exact ⟨_, .choices lists, long, same⟩
          · obtain ⟨lists, listed⟩ := readTexts_eq_ok_iff.mp read
            obtain ⟨long, same⟩ := checkShowable_eq_error_iff.mp (Outcome.map_eq_error_iff.mp fails)
            exact ⟨_, .keys lists listed, long, same⟩
        · obtain ⟨texts, read, keyed, split⟩ := listedChoices_eq_ok_iff.mp named
          obtain ⟨lists, listed⟩ := readTexts_eq_ok_iff.mp read
          obtain ⟨earlier, choice, later, rfl, readEarlier, stops⟩ :=
            Outcome.mapM_eq_error_iff.mp (Outcome.map_eq_error_iff.mp fails)
          obtain ⟨demand, demands, unmet, same⟩ := (readChoice_fails_iff unexplained).mp stops
          exact ⟨demand, .choice lists listed keyed split readEarlier demands, unmet, same⟩
    | _ => exact absurd ⟨_, (Except.error.inj fails).symm⟩ unexplained
  · rintro ⟨demand, demands, unmet, rfl⟩
    cases demands with
    | choices lists =>
        refine Outcome.bind_eq_error_iff.mpr (.inl ?_)
        refine Outcome.bind_eq_error_iff.mpr (.inl ?_)
        exact (readTexts_fails_iff unexplained).mpr ⟨⟨_, lists⟩, unmet, rfl⟩
    | keys lists listed =>
        refine Outcome.bind_eq_error_iff.mpr (.inl ?_)
        refine Outcome.bind_eq_error_iff.mpr (.inr ⟨_, readTexts_eq_ok_iff.mpr ⟨lists, listed⟩, ?_⟩)
        exact Outcome.bind_eq_error_iff.mpr (.inl (checkShowable_eq_error_iff.mpr ⟨unmet, rfl⟩))
    | choice lists listed keyed split readEarlier demands =>
        have choices : listedChoices name _ = .ok _ :=
          listedChoices_eq_ok_iff.mpr ⟨_, readTexts_eq_ok_iff.mpr ⟨lists, listed⟩, keyed, split⟩
        refine Outcome.bind_eq_error_iff.mpr (.inr ⟨_, choices, ?_⟩)
        refine Outcome.bind_eq_error_iff.mpr (.inl ?_)
        refine Outcome.mapM_eq_error_iff.mpr ⟨_, _, _, rfl, readEarlier, ?_⟩
        exact (readChoice_fails_iff unexplained).mpr ⟨demand, demands, unmet, rfl⟩

theorem readEntry_fails_iff {entry : Value × Value} :
    readEntry entry = .error problem ↔ FailsAt (EntryDemands entry) problem := by
  rcases entry with ⟨name, pivot⟩
  constructor
  · intro fails
    rcases Outcome.bind_eq_error_iff.mp fails with unnamed | ⟨_, named, fails⟩
    · obtain ⟨long, same⟩ := checkShowable_eq_error_iff.mp unnamed
      exact ⟨_, .name, long, same⟩
    · obtain ⟨demand, demands, unmet, same⟩ := (readPivot_fails_iff unexplained).mp fails
      exact ⟨demand, .pivot (checkShowable_eq_ok_iff.mp named) demands, unmet, same⟩
  · rintro ⟨demand, demands, unmet, rfl⟩
    cases demands with
    | name => exact Outcome.bind_eq_error_iff.mpr (.inl (checkShowable_eq_error_iff.mpr ⟨unmet, rfl⟩))
    | pivot named demands =>
        have fails := (readPivot_fails_iff unexplained).mpr ⟨demand, demands, unmet, rfl⟩
        exact Outcome.bind_eq_error_iff.mpr (.inr ⟨(), checkShowable_eq_ok_iff.mpr named, fails⟩)

theorem read_fails_iff {document : Value} :
    read document = .error problem ↔ FailsAt (Demands document) problem := by
  rcases read_cases document with ⟨pivots, declares, result⟩ | ⟨nowhere, cause, refused⟩
  · rw [result, readEntries, Outcome.map_eq_error_iff, Outcome.mapM_eq_error_iff]
    constructor
    · rintro ⟨before, entry, after, rfl, readBefore, stops⟩
      obtain ⟨demand, demands, unmet, same⟩ := (readEntry_fails_iff unexplained).mp stops
      exact ⟨demand, ⟨declares, readBefore, demands⟩, unmet, same⟩
    · rintro ⟨demand, ⟨split, readBefore, demands⟩, unmet, same⟩
      rw [declares, Option.some.injEq] at split
      exact ⟨_, _, _, split, readBefore, (readEntry_fails_iff unexplained).mpr ⟨demand, demands, unmet, same⟩⟩
  · rw [refused]
    constructor
    · intro fails
      exact absurd ⟨cause, (Except.error.inj fails).symm⟩ unexplained
    · rintro ⟨_, ⟨split, _, _⟩, _⟩
      rw [nowhere] at split
      contradiction

end

/-- A document is read, or refused with a cause, exactly if every demand that reading comes to is met: the
ignored keys of a choice have an order, and what is taken for a text has one. -/
theorem read_ok_or_config_iff (document : Value) :
    ((∃ found, read document = .ok found) ∨ ∃ cause, read document = .error (.config cause)) ↔
      ∀ demand, Demands document demand → demand.Met := by
  constructor
  · intro either demand demands
    apply Classical.byContradiction
    intro unmet
    have fails := (read_fails_iff demand.not_isConfigError_failure).mpr ⟨demand, demands, unmet, rfl⟩
    rw [fails] at either
    rcases either with ⟨_, contradictory⟩ | ⟨cause, same⟩
    · contradiction
    · exact demand.not_isConfigError_failure ⟨cause, Except.error.inj same⟩
  · intro always
    cases result : read document with
    | ok found => exact .inl ⟨found, rfl⟩
    | error problem =>
        right
        apply Classical.byContradiction
        intro unexplained
        have without : ¬ IsConfigError problem := fun ⟨cause, same⟩ => unexplained ⟨cause, by rw [same]⟩
        obtain ⟨demand, demands, unmet, _⟩ := (read_fails_iff without).mp result
        exact unmet (always demand demands)

/-- A body whose ignored keys are a number and a text is neither read nor refused with a cause. -/
theorem read_mixed_keys :
    let body := Value.map [(.int 1, .null), (.text "x", .null)]
    let pivot := Value.map [(.text "choices", .list [.text "a"]), (.text "a", body)]
    let document := Value.map [(.text "P", pivot)]
    ¬ ((∃ found, read document = .ok found) ∨ ∃ cause, read document = .error (.config cause)) := by
  intro body pivot document either
  have fails : read document = .error .unorderedKeys := by rfl
  rw [fails] at either
  rcases either with ⟨_, contradictory⟩ | ⟨_, contradictory⟩ <;> cases contradictory

/-- A choice that is given as an integer with too many digits to be a name. -/
theorem read_long_choice {n : Int} (long : Nat.pow 10 Value.digitLimit ≤ n.natAbs) :
    let pivot := Value.map [(.text "choices", .list [.int n])]
    read (.map [(.text "P", pivot)]) = .error .tooManyDigits := by
  intro pivot
  have unmet : ¬ (Value.list [.int n]).isShowable = true := by
    rw [Value.isShowable, Value.areShowable_iff, List.forall_mem_singleton, Value.isShowable_int_iff]
    exact Nat.not_lt.mpr long
  have texts : readTexts (.choicesNotTexts "P") (.list [.int n]) = .error .tooManyDigits :=
    readTexts_eq_error_iff.mpr (.inr ⟨⟨_, rfl⟩, unmet, rfl⟩)
  have stops : readEntry (.text "P", pivot) = .error .tooManyDigits :=
    Outcome.bind_eq_error_iff.mpr (.inl (Outcome.bind_eq_error_iff.mpr (.inl texts)))
  exact Outcome.map_eq_error_iff.mpr
    (Outcome.mapM_eq_error_iff.mpr ⟨[], (.text "P", pivot), [], rfl, by simp, stops⟩)

end Variants.Config
