import Mathlib.Logic.Basic
import Mathlib.Tactic.SplitIfs
import Variants.Proofs.Config.Reading
import Variants.Proofs.Document.Entries

/-!
Keys that reading a configuration ignores. Without them a document is read to the same names and choices and
without a warning. A choice with the name of a pivot's field shares its body with that field, so that the keys
that are ignored in the body still count in the field.
-/

namespace Variants.Config

def isChoiceKey (key : Value) : Bool :=
  choiceKeys.any fun name => key.same (.text name)

/-- The keys that are ignored in a choice's body. -/
def ignoredKeys : Value → List Value
  | .map entries => unknownChoiceKeys entries
  | _ => []

def strippedBody : Value → Value
  | .map entries => .map (entries.filter fun entry => isChoiceKey entry.1)
  | body => body

/-- A pivot's entries without those that neither are a field nor the body of a choice. Of two bodies of one
choice the later one counts, and it alone is stripped. -/
def strippedEntries (choices : List String) : Entries → Entries
  | [] => []
  | (key, item) :: rest =>
    if key.toText ∈ choices ∧ ∀ other ∈ rest, other.1.toText ≠ key.toText then
      (key, strippedBody item) :: strippedEntries choices rest
    else if key.toText ∈ pivotKeys ∨ key.toText ∈ choices then
      (key, item) :: strippedEntries choices rest
    else strippedEntries choices rest

def strippedPivot : Value → Value
  | .map entries =>
    match texts? (Entries.field entries "choices") with
    | some choices => .map (strippedEntries choices entries)
    | none => .map entries
  | body => body

def strippedPivots : Value → Value
  | .map pivots => .map (pivots.map fun pivot => (pivot.1, strippedPivot pivot.2))
  | value => value

/-- A document without the keys that reading it ignores. -/
def stripped : Value → Value
  | .map entries =>
    if isWrapped entries then .map (entries.map fun entry => (entry.1, strippedPivots entry.2))
    else strippedPivots (.map entries)
  | document => document

theorem strippedBody_eq_iff {body : Value} : strippedBody body = body ↔ ignoredKeys body = [] := by
  cases body with
  | map entries =>
      rw [strippedBody, ignoredKeys, unknownChoiceKeys, Value.map.injEq, List.filter_eq_self,
        List.filter_eq_nil_iff, List.forall_mem_map]
      simp only [isChoiceKey, Bool.not_eq_true', Bool.not_eq_false]
  | _ => exact ⟨fun _ => rfl, fun _ => rfl⟩

theorem ignoredKeys_strippedBody (body : Value) : ignoredKeys (strippedBody body) = [] := by
  cases body with
  | map entries =>
      rw [strippedBody, ignoredKeys, unknownChoiceKeys, List.filter_eq_nil_iff, List.forall_mem_map]
      intro entry member
      simpa [isChoiceKey] using (List.mem_filter.mp member).2
  | _ => rfl

theorem field_filter_isChoiceKey {name : String} (known : name ∈ choiceKeys) (entries : Entries) :
    Entries.field (entries.filter fun entry => isChoiceKey entry.1) name = Entries.field entries name := by
  have kept : isChoiceKey (.text name) = true :=
    List.any_eq_true.mpr ⟨name, known, Value.same_text_iff.mpr rfl⟩
  rw [Entries.field, Entries.get?_filter fun _ => kept, Entries.field]

theorem readChoice_strippedBody {pivot name : String} {body : Value} {found : Noted ChoiceDefinition}
    (reads : readChoice pivot name body = .ok found) :
    readChoice pivot name (strippedBody body) = .ok ⟨found.value, []⟩ := by
  cases body with
  | null =>
      cases reads
      rfl
  | map entries =>
      obtain ⟨_, aliases, _, listed, showable, rfl⟩ := readChoice_map_eq_ok_iff.mp reads
      have nothing := ignoredKeys_strippedBody (.map entries)
      rw [strippedBody, ignoredKeys] at nothing
      rw [strippedBody, readChoice_map_eq_ok_iff, nothing, field_filter_isChoiceKey (by decide),
        field_filter_isChoiceKey (by decide), field_filter_isChoiceKey (by decide)]
      exact ⟨[], aliases, rfl, listed, showable, rfl⟩
  | _ => contradiction

theorem warnings_readChoice_eq_nil_iff {pivot name : String} {body : Value} {found : Noted ChoiceDefinition}
    (reads : readChoice pivot name body = .ok found) :
    found.warnings = [] ↔ ignoredKeys body = [] := by
  cases body with
  | null =>
      cases reads
      exact ⟨fun _ => rfl, fun _ => rfl⟩
  | map entries =>
      obtain ⟨warnings, _, reported, _, _, rfl⟩ := readChoice_map_eq_ok_iff.mp reads
      exact reportIgnored_eq_nil_iff reported
  | _ => contradiction

theorem get?_bodies_cons (key item : Value) (rest : Entries) (name : String) :
    (bodies ((key, item) :: rest)).get? (.text name) =
      ((bodies rest).get? (.text name)).or (if key.toText = name then some item else none) := by
  rw [bodies, List.map_cons, ← List.singleton_append, Entries.get?_ofList_append, ← bodies]
  exact congrArg _ (Entries.get?_text_cons key.toText name item [])

theorem get?_bodies_eq_none_iff {entries : Entries} {name : String} :
    (bodies entries).get? (.text name) = none ↔ ∀ entry ∈ entries, entry.1.toText ≠ name := by
  induction entries with
  | nil => exact ⟨fun _ => nofun, fun _ => rfl⟩
  | cons entry rest ih =>
      rw [get?_bodies_cons, Option.or_eq_none_iff, ih, List.forall_mem_cons, and_comm]
      simp

theorem get?_bodies_strippedEntries {choices : List String} {name : String} (listed : name ∈ choices)
    (entries : Entries) :
    (bodies (strippedEntries choices entries)).get? (.text name) =
      ((bodies entries).get? (.text name)).map strippedBody := by
  induction entries with
  | nil => rfl
  | cons entry rest ih =>
      rcases entry with ⟨key, item⟩
      rw [get?_bodies_cons, strippedEntries]
      by_cases named : key.toText = name
      · subst named
        by_cases last : ∀ other ∈ rest, other.1.toText ≠ key.toText
        · rw [if_pos ⟨listed, last⟩, get?_bodies_cons, ih, get?_bodies_eq_none_iff.mpr last]
          simp
        · obtain ⟨body, later⟩ :=
            Option.ne_none_iff_exists'.mp fun nowhere => last (get?_bodies_eq_none_iff.mp nowhere)
          rw [if_neg fun given => last given.2, if_pos (.inr listed), get?_bodies_cons, ih, later]
          rfl
      · rw [if_neg named, Option.or_none, ← ih]
        split_ifs <;> simp [get?_bodies_cons, named]

theorem field_bodies_strippedEntries {choices : List String} {name : String} (listed : name ∈ choices)
    (entries : Entries) :
    Entries.field (bodies (strippedEntries choices entries)) name =
      strippedBody (Entries.field (bodies entries) name) := by
  rw [Entries.field, get?_bodies_strippedEntries listed, Entries.field]
  cases (bodies entries).get? (.text name) <;> rfl

theorem known_of_mem_strippedEntries {choices : List String} {entries : Entries} {entry : Value × Value}
    (member : entry ∈ strippedEntries choices entries) :
    entry.1.toText ∈ pivotKeys ∨ entry.1.toText ∈ choices := by
  induction entries with
  | nil => contradiction
  | cons first rest ih =>
      rcases first with ⟨key, item⟩
      rw [strippedEntries] at member
      split_ifs at member with last known
      · rcases List.mem_cons.mp member with rfl | later
        · exact .inr last.1
        · exact ih later
      · rcases List.mem_cons.mp member with rfl | later
        · exact known
        · exact ih later
      · exact ih member

theorem keys_strippedEntries_sublist (choices : List String) (entries : Entries) :
    ((strippedEntries choices entries).map (·.1)).Sublist (entries.map (·.1)) := by
  induction entries with
  | nil => exact .slnil
  | cons entry rest ih =>
      rcases entry with ⟨key, item⟩
      rw [strippedEntries]
      split_ifs
      · exact ih.cons_cons key
      · exact ih.cons_cons key
      · exact ih.cons key

theorem mem_texts_bodies {entries : Entries} {name : String} :
    name ∈ (bodies entries).map (·.1.toText) ↔ ∃ entry ∈ entries, entry.1.toText = name := by
  constructor
  · intro member
    obtain ⟨entry, held, rfl⟩ := List.mem_map.mp member
    have texts : Entries.Texts (entries.map fun entry => (.text entry.1.toText, entry.2)) := by
      intro entry member
      obtain ⟨origin, _, rfl⟩ := List.mem_map.mp member
      exact ⟨_, rfl⟩
    obtain ⟨origin, present, rfl⟩ := List.mem_map.mp (Entries.mem_of_mem_ofList texts entry held)
    exact ⟨origin, present, rfl⟩
  · intro given
    rcases given with ⟨entry, member, named⟩
    have somewhere : (bodies entries).get? (.text name) ≠ none :=
      fun nowhere => get?_bodies_eq_none_iff.mp nowhere entry member named
    obtain ⟨item, found⟩ := Option.ne_none_iff_exists'.mp somewhere
    obtain ⟨other, first, _⟩ := Option.map_eq_some_iff.mp found
    have same : other.1.same (.text name) = true := by simpa using List.find?_some first
    refine List.mem_map.mpr ⟨other, List.mem_of_find?_eq_some first, ?_⟩
    rw [Value.same_text_iff.mp same, Value.toText]

theorem unknownPivotKeys_eq_nil_iff {entries : Entries} {names : List String} :
    unknownPivotKeys entries names = [] ↔
      ∀ entry ∈ entries, entry.1.toText ∈ pivotKeys ∨ entry.1.toText ∈ names := by
  rw [unknownPivotKeys, List.filter_eq_nil_iff]
  simp only [mem_texts_bodies, forall_exists_index, and_imp, forall_apply_eq_imp_iff₂]
  simp [or_iff_not_imp_left]

theorem unknownPivotKeys_strippedEntries {choices names : List String} (included : choices ⊆ names)
    (entries : Entries) : unknownPivotKeys (strippedEntries choices entries) names = [] :=
  unknownPivotKeys_eq_nil_iff.mpr fun _ member =>
    (known_of_mem_strippedEntries member).imp_right fun listed => included listed

theorem strippedEntries_eq_iff {choices : List String} {entries : Entries} :
    strippedEntries choices entries = entries ↔
      (∀ entry ∈ entries, entry.1.toText ∈ pivotKeys ∨ entry.1.toText ∈ choices) ∧
        ∀ name ∈ choices, ignoredKeys (Entries.field (bodies entries) name) = [] := by
  constructor
  · intro same
    refine ⟨fun entry member => known_of_mem_strippedEntries (same.symm ▸ member), ?_⟩
    intro name listed
    rw [← strippedBody_eq_iff, ← field_bodies_strippedEntries listed, same]
  · intro given
    rcases given with ⟨known, plain⟩
    induction entries with
    | nil => rfl
    | cons entry rest ih =>
        rcases entry with ⟨key, item⟩
        obtain ⟨knownHere, knownLater⟩ := List.forall_mem_cons.mp known
        have others : strippedEntries choices rest = rest := by
          apply ih knownLater
          intro name listed
          have whole := plain name listed
          rw [Entries.field, get?_bodies_cons] at whole
          rw [Entries.field]
          cases found : (bodies rest).get? (.text name) with
          | none => rfl
          | some body =>
              rw [found] at whole
              exact whole
        rw [strippedEntries, others]
        split_ifs with last
        · have whole := plain key.toText last.1
          rw [Entries.field, get?_bodies_cons, get?_bodies_eq_none_iff.mpr last.2, if_pos rfl,
            Option.none_or, Option.getD_some] at whole
          rw [strippedBody_eq_iff.mpr whole]
        · rfl

/-- The first entry under a name that is also the last whose key has the name as its text, so that the name's
field and its choice have one body. -/
inductive Shared (name : String) (item : Value) : Entries → Prop
  | here {rest : Entries} (last : ∀ other ∈ rest, other.1.toText ≠ name) :
      Shared name item ((.text name, item) :: rest)
  | there {key other : Value} {rest : Entries} (differs : key ≠ .text name)
      (later : Shared name item rest) : Shared name item ((key, other) :: rest)

/-- A choice's body that is also a field of the pivot and has keys that are ignored in the body. -/
inductive Overlaps : Value → Prop
  | intro {entries : Entries} {choices : List String} {name : String} {item : Value}
      (lists : texts? (Entries.field entries "choices") = some choices) (listed : name ∈ choices)
      (reserved : name = "key" ∨ name = "description") (shared : Shared name item entries)
      (ignored : ignoredKeys item ≠ []) : Overlaps (.map entries)

theorem Shared.get? {name : String} {item : Value} {entries : Entries} (shared : Shared name item entries) :
    entries.get? (.text name) = some item := by
  induction shared with
  | here last => simp [Entries.get?_text_cons]
  | there differs later ih => rw [Entries.get?_cons, if_neg (by rwa [Value.same_text_iff]), ih]

theorem get?_strippedEntries {choices : List String} {name : String} (reserved : name ∈ pivotKeys)
    (entries : Entries) :
    (∃ item, name ∈ choices ∧ Shared name item entries ∧
        (strippedEntries choices entries).get? (.text name) = some (strippedBody item)) ∨
      (name ∈ choices → ∀ item, ¬ Shared name item entries) ∧
        (strippedEntries choices entries).get? (.text name) = entries.get? (.text name) := by
  induction entries with
  | nil => exact .inr ⟨fun _ _ => nofun, rfl⟩
  | cons entry rest ih =>
      rcases entry with ⟨key, item⟩
      by_cases named : key = .text name
      · subst named
        rw [strippedEntries, Value.toText]
        by_cases last : name ∈ choices ∧ ∀ other ∈ rest, other.1.toText ≠ name
        · refine .inl ⟨item, last.1, .here last.2, ?_⟩
          rw [if_pos last, Entries.get?_text_cons, if_pos rfl]
        · refine .inr ⟨?_, ?_⟩
          · intro listed other shared
            cases shared with
            | here final => exact last ⟨listed, final⟩
            | there differs _ => exact differs rfl
          · rw [if_neg last, if_pos (.inl reserved), Entries.get?_text_cons, Entries.get?_text_cons,
              if_pos rfl, if_pos rfl]
      · have skip (other : Value) (others : Entries) :
            Entries.get? ((key, other) :: others) (.text name) = others.get? (.text name) := by
          rw [Entries.get?_cons, if_neg (by rwa [Value.same_text_iff])]
        have skipped : (strippedEntries choices ((key, item) :: rest)).get? (.text name) =
            (strippedEntries choices rest).get? (.text name) := by
          rw [strippedEntries]
          split_ifs <;> simp [skip]
        rw [skip, skipped]
        rcases ih with ⟨shared, listed, stands, found⟩ | ⟨apart, found⟩
        · exact .inl ⟨shared, listed, .there named stands, found⟩
        · refine .inr ⟨?_, found⟩
          intro listed other stands
          cases stands with
          | here _ => exact named rfl
          | there _ later => exact apart listed other later

theorem field_strippedEntries_eq_iff {choices : List String} {name : String} (reserved : name ∈ pivotKeys)
    (entries : Entries) :
    Entries.field (strippedEntries choices entries) name = Entries.field entries name ↔
      (name ∈ choices → ∀ item, Shared name item entries → ignoredKeys item = []) := by
  rw [Entries.field, Entries.field]
  rcases get?_strippedEntries reserved entries with ⟨item, listed, shared, found⟩ | ⟨apart, same⟩
  · rw [found, shared.get?, Option.getD_some, Option.getD_some, strippedBody_eq_iff]
    constructor
    · intro nothing _ other stands
      have same : item = other := Option.some.inj (shared.get?.symm.trans stands.get?)
      rwa [← same]
    · intro always
      exact always listed item shared
  · rw [same]
    exact ⟨fun _ listed item shared => absurd shared (apart listed item), fun _ => rfl⟩

theorem ignoredKeys_of_texts {value : Value} {names : List String} (lists : texts? value = some names) :
    ignoredKeys value = [] := by
  cases value with
  | map entries => contradiction
  | _ => rfl

theorem field_choices_strippedEntries {entries : Entries} {choices : List String}
    (lists : texts? (Entries.field entries "choices") = some choices) :
    Entries.field (strippedEntries choices entries) "choices" = Entries.field entries "choices" := by
  rw [field_strippedEntries_eq_iff (by decide)]
  intro _ item shared
  rw [Entries.field, shared.get?] at lists
  exact ignoredKeys_of_texts lists

theorem warnings_readPivot_eq_nil_iff {name : String} {body : Value} {found : Noted PivotDefinition}
    (reads : readPivot name body = .ok found) : found.warnings = [] ↔ strippedPivot body = body := by
  cases body with
  | map entries =>
      obtain ⟨choices, each, choicesRead, _, readEach, rfl⟩ := readPivot_map_eq_ok_iff.mp reads
      have lists := (readTexts_eq_ok_iff.mp choicesRead).1
      have plain := Outcome.forall_mem_mapM_iff
        (fun _ _ read => warnings_readChoice_eq_nil_iff read) readEach
      rw [strippedPivot, lists, Value.map.injEq, strippedEntries_eq_iff]
      simp only [List.mem_eraseDups] at plain
      rw [← plain, List.append_eq_nil_iff, List.map_eq_nil_iff, List.flatMap_eq_nil_iff,
        unknownPivotKeys_eq_nil_iff]
      simp only [List.mem_eraseDups]
  | _ => contradiction

theorem overlaps_map_iff {entries : Entries} {choices : List String}
    (lists : texts? (Entries.field entries "choices") = some choices) :
    ¬ Overlaps (.map entries) ↔
      Entries.field (strippedEntries choices entries) "key" = Entries.field entries "key" ∧
        Entries.field (strippedEntries choices entries) "description" =
          Entries.field entries "description" := by
  rw [field_strippedEntries_eq_iff (by decide), field_strippedEntries_eq_iff (by decide)]
  constructor
  · intro apart
    refine ⟨?_, ?_⟩
    · intro listed item shared
      exact Classical.byContradiction fun ignored => apart ⟨lists, listed, .inl rfl, shared, ignored⟩
    · intro listed item shared
      exact Classical.byContradiction fun ignored => apart ⟨lists, listed, .inr rfl, shared, ignored⟩
  · intro same overlaps
    rcases overlaps with ⟨listsToo, listed, reserved, shared, ignored⟩
    rw [lists, Option.some.injEq] at listsToo
    subst listsToo
    rcases reserved with rfl | rfl
    · exact ignored (same.1 listed _ shared)
    · exact ignored (same.2 listed _ shared)

theorem readPivot_strippedPivot {name : String} {body : Value} {found : Noted PivotDefinition}
    (reads : readPivot name body = .ok found) :
    ∃ pivot, readPivot name (strippedPivot body) = .ok ⟨pivot, []⟩ ∧ pivot.name = found.value.name ∧
      pivot.choices = found.value.choices ∧ (pivot = found.value ↔ ¬ Overlaps body) := by
  cases body with
  | map entries =>
      obtain ⟨choices, each, choicesRead, showable, readEach, rfl⟩ := readPivot_map_eq_ok_iff.mp reads
      have lists := (readTexts_eq_ok_iff.mp choicesRead).1
      have keysShowable : (Value.list ((strippedEntries choices entries).map (·.1))).isShowable = true :=
        Value.areShowable_iff.mpr fun key member =>
          Value.areShowable_iff.mp showable key
            ((keys_strippedEntries_sublist choices entries).subset member)
      have readStripped : (choices.eraseDups.mapM fun choice =>
            readChoice name choice (Entries.field (bodies (strippedEntries choices entries)) choice)) =
          .ok (each.map fun choice => ⟨choice.value, []⟩) := by
        refine Outcome.mapM_eq_ok_of_each (fun choice listed found read => ?_) readEach
        rw [field_bodies_strippedEntries (List.mem_eraseDups.mp listed)]
        exact readChoice_strippedBody read
      have unknown : unknownPivotKeys (strippedEntries choices entries) choices.eraseDups = [] :=
        unknownPivotKeys_strippedEntries (fun _ => List.mem_eraseDups.mpr) entries
      have silent := Noted.collect_map (·.value) each
      rw [Noted.collect, Noted.mk.injEq] at silent
      let pivot : PivotDefinition :=
        { name, key := Entries.field (strippedEntries choices entries) "key",
          description := Entries.field (strippedEntries choices entries) "description",
          choices := each.map (·.value) }
      have reads : readPivot name (strippedPivot (.map entries)) = .ok ⟨pivot, []⟩ := by
        rw [strippedPivot, lists, readPivot_map_eq_ok_iff]
        refine ⟨choices, _, ?_, keysShowable, readStripped, ?_⟩
        · rw [field_choices_strippedEntries lists, choicesRead]
        · rw [silent.1, silent.2, unknown]
          rfl
      refine ⟨pivot, reads, rfl, rfl, ?_⟩
      simp [pivot, overlaps_map_iff lists]
  | _ => contradiction

theorem mapM_readEntry_strippedPivot {pivots : Entries} {found : List (Noted PivotDefinition)}
    (reads : pivots.mapM readEntry = .ok found) :
    ∃ definitions : List PivotDefinition,
      (pivots.mapM fun pivot => readEntry (pivot.1, strippedPivot pivot.2)) =
        .ok (definitions.map fun pivot => ⟨pivot, []⟩) ∧
      definitions.map (fun pivot => (pivot.name, pivot.choices)) =
        found.map (fun pivot => (pivot.value.name, pivot.value.choices)) ∧
      (definitions = found.map (·.value) ↔ ∀ pivot ∈ pivots, ¬ Overlaps pivot.2) := by
  induction pivots generalizing found with
  | nil =>
      cases reads
      exact ⟨[], rfl, rfl, by simp⟩
  | cons first rest ih =>
      rw [List.mapM_cons] at reads
      obtain ⟨head, readHead, later⟩ := Outcome.bind_eq_ok_iff.mp reads
      obtain ⟨tail, readTail, all⟩ := Outcome.bind_eq_ok_iff.mp later
      cases all
      obtain ⟨showable, readPivot⟩ := readEntry_eq_ok_iff.mp readHead
      obtain ⟨pivot, readsPivot, sameName, sameChoices, unchanged⟩ := readPivot_strippedPivot readPivot
      obtain ⟨definitions, readsRest, sameRest, unchangedRest⟩ := ih readTail
      refine ⟨pivot :: definitions, ?_, ?_, ?_⟩
      · have readsFirst : readEntry (first.1, strippedPivot first.2) = .ok ⟨pivot, []⟩ :=
          readEntry_eq_ok_iff.mpr ⟨showable, readsPivot⟩
        rw [List.mapM_cons, readsFirst, readsRest]
        rfl
      · rw [List.map_cons, List.map_cons, sameName, sameChoices, sameRest]
      · rw [List.map_cons, List.cons.injEq, unchanged, unchangedRest, List.forall_mem_cons]

theorem readEntries_strippedPivot {pivots : Entries} {found : Noted (List PivotDefinition)}
    (reads : readEntries pivots = .ok found) :
    ∃ definitions, readEntries (pivots.map fun pivot => (pivot.1, strippedPivot pivot.2)) =
        .ok ⟨definitions, []⟩ ∧
      definitions.map (fun pivot => (pivot.name, pivot.choices)) =
        found.value.map (fun pivot => (pivot.name, pivot.choices)) ∧
      (definitions = found.value ↔ ∀ pivot ∈ pivots, ¬ Overlaps pivot.2) ∧
      (found.warnings = [] ↔ ∀ pivot ∈ pivots, strippedPivot pivot.2 = pivot.2) := by
  obtain ⟨each, readEach, rfl⟩ := Outcome.map_eq_ok_iff.mp reads
  obtain ⟨definitions, readsAll, same, unchanged⟩ := mapM_readEntry_strippedPivot readEach
  refine ⟨definitions, ?_, ?_, unchanged, ?_⟩
  · rw [readEntries, List.mapM_map]
    exact Outcome.map_eq_ok_iff.mpr ⟨_, readsAll, by simpa using Noted.collect_map id definitions⟩
  · rw [same, Noted.collect, List.map_map]
    rfl
  · rw [Noted.collect, List.flatMap_eq_nil_iff]
    exact Outcome.forall_mem_mapM_iff
      (fun _ _ read => warnings_readPivot_eq_nil_iff (readEntry_eq_ok_iff.mp read).2) readEach

theorem isWrapped_map (f : Value → Value) (entries : Entries) :
    isWrapped (entries.map fun entry => (entry.1, f entry.2)) = isWrapped entries := by
  rw [isWrapped, isWrapped, List.isEmpty_map, List.all_map]
  rfl

theorem given_strippedPivots (value : Value) : (strippedPivots value).given = value.given := by
  cases value with
  | map pivots => exact congrArg not List.isEmpty_map
  | _ => rfl

theorem orElse_strippedPivots (value : Value) :
    (strippedPivots value).orElse (.map []) = strippedPivots (value.orElse (.map [])) := by
  rw [Value.orElse, given_strippedPivots, Value.orElse, apply_ite strippedPivots]
  rfl

theorem pivotEntries?_stripped (document : Value) :
    pivotEntries? (stripped document) =
      (pivotEntries? document).map fun pivots => pivots.map fun pivot => (pivot.1, strippedPivot pivot.2) := by
  cases document with
  | map entries =>
      rw [stripped]
      split
      · rename_i wrapped
        have inner : Entries.field (entries.map fun entry => (entry.1, strippedPivots entry.2)) wrapper =
            strippedPivots (Entries.field entries wrapper) := by
          rw [Entries.field, Entries.get?_map, Entries.field]
          cases Entries.get? entries (.text wrapper) <;> rfl
        rw [pivotEntries?, isWrapped_map, if_pos wrapped, pivotEntries?, if_pos wrapped, inner,
          orElse_strippedPivots]
        cases (Entries.field entries wrapper).orElse (.map []) <;> rfl
      · rename_i unwrapped
        rw [strippedPivots, pivotEntries?, isWrapped_map, if_neg unwrapped, pivotEntries?, if_neg unwrapped]
        rfl
  | _ => rfl

theorem read_of_pivotEntries {document : Value} {pivots : Entries}
    (declares : pivotEntries? document = some pivots) : read document = readEntries pivots := by
  rcases read_cases document with ⟨same, declared, result⟩ | ⟨nowhere, _⟩
  · rw [result, Option.some.inj (declared.symm.trans declares)]
  · rw [nowhere] at declares
    contradiction

/-- Without the keys that reading ignores a document is read without a warning to pivots of the same names and
choices, and to the same definitions unless one of those keys stands in a choice's body that is also a field of
the pivot. There are such keys exactly if reading the document warns. -/
theorem read_stripped {document : Value} {found : Noted (List PivotDefinition)}
    (reads : read document = .ok found) :
    ∃ pivots definitions, pivotEntries? document = some pivots ∧
      read (stripped document) = .ok ⟨definitions, []⟩ ∧
      definitions.map (fun pivot => (pivot.name, pivot.choices)) =
        found.value.map (fun pivot => (pivot.name, pivot.choices)) ∧
      (definitions = found.value ↔ ∀ pivot ∈ pivots, ¬ Overlaps pivot.2) ∧
      (found.warnings = [] ↔ ∀ pivot ∈ pivots, strippedPivot pivot.2 = pivot.2) := by
  rcases read_cases document with ⟨pivots, declares, result⟩ | ⟨_, cause, refused⟩
  · rw [result] at reads
    obtain ⟨definitions, readsToo, same⟩ := readEntries_strippedPivot reads
    have declaresToo := pivotEntries?_stripped document
    rw [declares, Option.map_some] at declaresToo
    exact ⟨pivots, definitions, declares, (read_of_pivotEntries declaresToo).trans readsToo, same⟩
  · rw [refused] at reads
    contradiction

def annotated : Value :=
  .map [(.text "Year", .map [
    (.text "colour", .text "blue"),
    (.text "choices", .list [.text "2010", .text "2012"]),
    (.int 2010, .map [(.text "aliases", .text "vs10"), (.text "note", .int 1)])])]

def unannotated : List PivotDefinition :=
  [{ name := "Year", choices := [{ name := "2010", aliases := ["vs10"] }, { name := "2012" }] }]

theorem read_stripped_of_example :
    let warnings : List ConfigWarning :=
      [.pivotKey "Year" "colour", .choiceKeys "Year" "2010" [.text "note"]]
    read annotated = .ok ⟨unannotated, warnings⟩ ∧
      ∃ pivots definitions, pivotEntries? annotated = some pivots ∧
        read (stripped annotated) = .ok ⟨definitions, []⟩ ∧
        definitions.map (fun pivot => (pivot.name, pivot.choices)) =
          unannotated.map (fun pivot => (pivot.name, pivot.choices)) ∧
        (definitions = unannotated ↔ ∀ pivot ∈ pivots, ¬ Overlaps pivot.2) ∧
        (warnings = [] ↔ ∀ pivot ∈ pivots, strippedPivot pivot.2 = pivot.2) := by
  intro warnings
  have reads : read annotated = .ok ⟨unannotated, warnings⟩ := by rfl
  exact ⟨reads, read_stripped reads⟩

/-- The body of a choice that is named as a field: its ignored key counts in the field. -/
theorem read_stripped_changes_key :
    let document (body : Entries) := Value.map [(.text "Keyboard", .map [
      (.text "choices", .list [.text "key", .text "mouse"]), (.text "key", .map body)])]
    let definitions (body : Entries) : List PivotDefinition :=
      [{ name := "Keyboard", key := .map body, choices := [{ name := "key" }, { name := "mouse" }] }]
    let body : Entries := [(.text "alias", .text "k")]
    read (document body) =
        .ok ⟨definitions body, [.choiceKeys "Keyboard" "key" [.text "alias"]]⟩ ∧
      stripped (document body) = document [] ∧ read (document []) = .ok ⟨definitions [], []⟩ ∧
      (definitions [] == definitions body) = false :=
  ⟨rfl, rfl, rfl, rfl⟩

end Variants.Config
