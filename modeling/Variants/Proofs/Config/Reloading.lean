import Variants.Example
import Variants.Proofs.Config.Writing
import Variants.Proofs.Registry.Building

/-!
Reading back what is written of a list of definitions. The last definition of a name counts, at the place
of the first, so a registry is rebuilt unless that loses a definition or a body of a choice.
-/

namespace Variants.Config

def replace (kept : List PivotDefinition) (definition : PivotDefinition) : List PivotDefinition :=
  match kept with
  | [] => [definition]
  | known :: rest =>
    if known.name = definition.name then definition :: rest else known :: replace rest definition

/-- The last definition of each name, at the place of the first. -/
def lastDeclared (definitions : List PivotDefinition) : List PivotDefinition :=
  definitions.foldl replace []

def pivotEntry (pivot : PivotDefinition) : Value × Value :=
  (.text pivot.name, writePivot pivot)

theorem lastDeclared_append_singleton (definitions : List PivotDefinition) (definition : PivotDefinition) :
    lastDeclared (definitions ++ [definition]) = replace (lastDeclared definitions) definition := by
  rw [lastDeclared, List.foldl_append]
  rfl

theorem put_pivotEntry (kept : List PivotDefinition) (definition : PivotDefinition) :
    Entries.put (kept.map pivotEntry) (.text definition.name) (writePivot definition) =
      (replace kept definition).map pivotEntry := by
  induction kept with
  | nil => rfl
  | cons known rest ih =>
      rw [List.map_cons, pivotEntry, Entries.put, ih, replace]
      by_cases named : known.name = definition.name
      · simp [named, Value.same_text_iff.mpr, pivotEntry]
      · have differs : (Value.text known.name).same (.text definition.name) = false := by
          rw [Bool.eq_false_iff, ne_eq, Value.same_text_iff]
          exact fun same => named (Value.text.inj same)
        simp [named, differs, pivotEntry]

theorem write_eq (definitions : List PivotDefinition) :
    write definitions = .map ((lastDeclared definitions).map pivotEntry) := by
  have stored : Entries.ofList (definitions.map pivotEntry) = (lastDeclared definitions).map pivotEntry := by
    induction definitions using List.reverseRecOn with
    | nil => rfl
    | append_singleton definitions definition ih =>
        rw [lastDeclared_append_singleton, ← put_pivotEntry, ← ih, Entries.ofList, List.map_append,
          List.foldl_append]
        rfl
  rw [← stored]
  rfl

theorem mem_of_mem_replace {kept : List PivotDefinition} {definition pivot : PivotDefinition}
    (member : pivot ∈ replace kept definition) : pivot ∈ kept ∨ pivot = definition := by
  induction kept with
  | nil => exact .inr (List.mem_singleton.mp member)
  | cons known rest ih =>
      rw [replace] at member
      split at member
      · rcases List.mem_cons.mp member with new | old
        · exact .inr new
        · exact .inl (List.mem_cons_of_mem known old)
      · rcases List.mem_cons.mp member with rfl | later
        · exact .inl List.mem_cons_self
        · exact (ih later).imp_left (List.mem_cons_of_mem known)

theorem mem_names_replace {kept : List PivotDefinition} {definition : PivotDefinition} {name : String} :
    name ∈ (replace kept definition).map (·.name) ↔ name ∈ kept.map (·.name) ∨ name = definition.name := by
  induction kept with
  | nil => simp [replace]
  | cons known rest ih =>
      rw [replace]
      split
      · rename_i named
        simp only [List.map_cons, List.mem_cons, named]
        tauto
      · simp only [List.map_cons, List.mem_cons, ih, or_assoc]

theorem mem_of_mem_lastDeclared {definitions : List PivotDefinition} {pivot : PivotDefinition}
    (member : pivot ∈ lastDeclared definitions) : pivot ∈ definitions := by
  induction definitions using List.reverseRecOn with
  | nil => simp [lastDeclared] at member
  | append_singleton definitions definition ih =>
      rw [lastDeclared_append_singleton] at member
      rcases mem_of_mem_replace member with earlier | rfl
      · exact List.mem_append_left _ (ih earlier)
      · exact List.mem_append_right _ List.mem_cons_self

theorem mem_names_lastDeclared {definitions : List PivotDefinition} {name : String} :
    name ∈ (lastDeclared definitions).map (·.name) ↔ name ∈ definitions.map (·.name) := by
  induction definitions using List.reverseRecOn with
  | nil => rfl
  | append_singleton definitions definition ih =>
      rw [lastDeclared_append_singleton, mem_names_replace, ih]
      simp

theorem inhabited_replace {kept : List PivotDefinition} {definition : PivotDefinition}
    (uninhabited : ∀ known ∈ kept, known.name = definition.name →
      known.choices = [] ∧ definition.choices = []) :
    Registry.inhabited (replace kept definition) =
      Registry.inhabited kept ++ Registry.inhabited [definition] := by
  induction kept with
  | nil => rfl
  | cons known rest ih =>
      obtain ⟨here, later⟩ := List.forall_mem_cons.mp uninhabited
      rw [replace]
      split
      · rename_i named
        obtain ⟨knownEmpty, empty⟩ := here named
        simp [Registry.inhabited, knownEmpty, empty]
      · rw [Registry.inhabited, Registry.inhabited, List.filter_cons, List.filter_cons,
          ← Registry.inhabited, ← Registry.inhabited, ih later]
        cases known.choices.isEmpty <;> rfl

theorem inhabited_lastDeclared {definitions : List PivotDefinition}
    (uninhabited : definitions.Pairwise fun first later => first.name = later.name →
      first.choices = [] ∧ later.choices = []) :
    Registry.inhabited (lastDeclared definitions) = Registry.inhabited definitions := by
  induction definitions using List.reverseRecOn with
  | nil => rfl
  | append_singleton definitions definition ih =>
      obtain ⟨earlier, _, across⟩ := List.pairwise_append.mp uninhabited
      rw [lastDeclared_append_singleton, inhabited_replace, ih earlier, Registry.inhabited,
        Registry.inhabited, Registry.inhabited, List.filter_append]
      intro known member named
      exact across known (mem_of_mem_lastDeclared member) definition List.mem_cons_self named

/-- Definitions that a mapping can hold. Definitions with and without choices do not share a name, and one
pivot alone is not taken for the whole document. -/
structure Storable (definitions : List PivotDefinition) : Prop where
  pivots : ∀ pivot ∈ definitions, pivot.Storable
  namesakes : ∀ first ∈ definitions, ∀ second ∈ definitions, first.name = second.name →
    first.choices = [] → second.choices = []
  wrapped : (∀ pivot ∈ definitions, pivot.name = wrapper) →
    ∀ pivot ∈ definitions, ∀ choice ∈ pivot.choices, choice.name = "choices" → choice.Bare

instance : DecidablePred Storable :=
  fun definitions => decidable_of_iff
    ((∀ pivot ∈ definitions, pivot.Storable) ∧
      (∀ first ∈ definitions, ∀ second ∈ definitions, first.name = second.name →
        first.choices = [] → second.choices = []) ∧
      ((∀ pivot ∈ definitions, pivot.name = wrapper) →
        ∀ pivot ∈ definitions, ∀ choice ∈ pivot.choices, choice.name = "choices" → choice.Bare))
    ⟨fun ⟨pivots, namesakes, wrapped⟩ => ⟨pivots, namesakes, wrapped⟩,
      fun storable => ⟨storable.pivots, storable.namesakes, storable.wrapped⟩⟩

theorem isWrapped_map_pivotEntry {kept : List PivotDefinition} :
    isWrapped (kept.map pivotEntry) = true ↔ kept ≠ [] ∧ ∀ pivot ∈ kept, pivot.name = wrapper := by
  rw [isWrapped, Bool.and_eq_true, List.all_map, List.all_eq_true]
  simp [pivotEntry, Value.same_text_iff]

theorem readEntries_map_pivotEntry {definitions : List PivotDefinition}
    (textual : ∀ pivot ∈ definitions, pivot.Textual) (storable : ∀ pivot ∈ definitions, pivot.Storable) :
    readEntries (definitions.map pivotEntry) = .ok ⟨definitions.map PivotDefinition.declaredFirst, []⟩ ∨
      (∃ pivot ∈ definitions, ∃ choice ∈ pivot.choices, choice.name ∈ pivotKeys) ∧
        ∃ problem, IsConfigError problem ∧ readEntries (definitions.map pivotEntry) = .error problem := by
  have each := Outcome.mapM_cases fun pivot member =>
    readPivot_writePivot (textual pivot member) (storable pivot member)
  rw [readEntries, List.mapM_map]
  rcases each with succeeds | ⟨shared, problem, known, fails⟩
  · left
    exact (congrArg _ succeeds).trans (congrArg Except.ok (Noted.collect_map _ definitions))
  · exact .inr ⟨shared, problem, known, congrArg (Except.map Noted.collect) fails⟩

theorem pivotEntries_cons (pivot : PivotDefinition) :
    ∃ later, pivotEntries pivot =
      (.text "choices", Entries.field (pivotEntries pivot) "choices") :: later := by
  obtain ⟨first, later, split⟩ : ∃ first later, pivotEntries pivot = (.text "choices", first) :: later :=
    Entries.exists_ofList_cons _ _ _
  refine ⟨later, ?_⟩
  rw [split, Entries.field, Entries.get?_text_cons, if_pos rfl, Option.getD_some]

theorem readEntries_pivotEntries {pivot : PivotDefinition}
    (bare : ∀ choice ∈ pivot.choices, choice.name = "choices" → choice.Bare) :
    readEntries (pivotEntries pivot) = .error (.config (.pivotNotMapping "choices")) := by
  have names : Entries.field (pivotEntries pivot) "choices" =
      Value.ofTexts (pivot.choices.map (·.name)) := by
    rw [field_pivotEntries, storedBody?_eq_none bare, Option.none_or, get?_fieldEntries_choices]
    rfl
  obtain ⟨later, split⟩ := pivotEntries_cons pivot
  rw [split, names, readEntries, List.mapM_cons]
  rfl

theorem read_of_wrapped {first : PivotDefinition} {rest : List PivotDefinition}
    (wrapped : isWrapped ((first :: rest).map pivotEntry) = true) :
    read (.map ((first :: rest).map pivotEntry)) = readEntries (pivotEntries first) := by
  have named := (isWrapped_map_pivotEntry.mp wrapped).2 first List.mem_cons_self
  have inner : (Entries.field ((first :: rest).map pivotEntry) wrapper).orElse (.map []) =
      .map (pivotEntries first) := by
    rw [List.map_cons, pivotEntry, named, Entries.field, Entries.get?_text_cons, if_pos rfl,
      Option.getD_some, writePivot_eq]
    obtain ⟨later, split⟩ := pivotEntries_cons first
    rw [split]
    rfl
  rw [read, if_pos wrapped, inner]

theorem read_of_not_wrapped {kept : List PivotDefinition}
    (unwrapped : ¬ isWrapped (kept.map pivotEntry) = true) :
    read (.map (kept.map pivotEntry)) = readEntries (kept.map pivotEntry) := by
  rw [read, if_neg unwrapped]

theorem pairwise_uninhabited {definitions : List PivotDefinition} {registry : Registry}
    (accepted : Registry.build definitions = .ok registry)
    (namesakes : ∀ first ∈ definitions, ∀ second ∈ definitions, first.name = second.name →
      first.choices = [] → second.choices = []) :
    definitions.Pairwise fun first later => first.name = later.name →
      first.choices = [] ∧ later.choices = [] := by
  have distinct := Registry.nodup_names_inhabited accepted
  rw [List.Nodup, List.pairwise_map, Registry.inhabited, List.pairwise_filter] at distinct
  apply distinct.imp_of_mem
  intro first later firstMember laterMember apart named
  by_cases firstEmpty : first.choices = []
  · exact ⟨firstEmpty, namesakes first firstMember later laterMember named firstEmpty⟩
  · by_cases laterEmpty : later.choices = []
    · exact ⟨namesakes later laterMember first firstMember named.symm laterEmpty, laterEmpty⟩
    · exact absurd named (apart (by simpa using firstEmpty) (by simpa using laterEmpty))

/-- What is written of the definitions is refused with a cause, or it makes the given registry when it is
read back. -/
def Reloads (definitions : List PivotDefinition) (registry : Registry) : Prop :=
  (∃ cause, read (write definitions) = .error (.config cause)) ∨
    ∃ found, read (write definitions) = .ok found ∧ Registry.build found.value = .ok registry

/-- Definitions that a mapping can hold make the same registry when they are read back. -/
theorem read_write_builds_same {definitions : List PivotDefinition} {registry : Registry}
    (accepted : Registry.build definitions = .ok registry)
    (textual : ∀ pivot ∈ definitions, pivot.Textual) (storable : Storable definitions) :
    Reloads definitions registry := by
  have member {pivot : PivotDefinition} (kept : pivot ∈ lastDeclared definitions) : pivot ∈ definitions :=
    mem_of_mem_lastDeclared kept
  have rebuilt : Registry.build ((lastDeclared definitions).map PivotDefinition.declaredFirst) =
      .ok registry := by
    rw [Registry.build_declaredFirst, ← Registry.build_inhabited,
      inhabited_lastDeclared (pairwise_uninhabited accepted storable.namesakes),
      Registry.build_inhabited, accepted]
  rw [Reloads, write_eq]
  by_cases wrapped : isWrapped ((lastDeclared definitions).map pivotEntry) = true
  -- All that is left is named like the wrapper, so the body of the first pivot is read as the document.
  · left
    obtain ⟨nonempty, all⟩ := isWrapped_map_pivotEntry.mp wrapped
    have whole : ∀ pivot ∈ definitions, pivot.name = wrapper := by
      intro pivot given
      obtain ⟨kept, present, named⟩ :=
        List.mem_map.mp (mem_names_lastDeclared.mpr (List.mem_map_of_mem given))
      rw [← named]
      exact all kept present
    cases kept : lastDeclared definitions with
    | nil => contradiction
    | cons first rest =>
        rw [kept] at wrapped
        have given : first ∈ definitions := member (by simp [kept])
        exact ⟨_, (read_of_wrapped wrapped).trans
          (readEntries_pivotEntries (storable.wrapped whole first given))⟩
  · rw [read_of_not_wrapped wrapped]
    rcases readEntries_map_pivotEntry (fun pivot kept => textual pivot (member kept))
      (fun pivot kept => storable.pivots pivot (member kept)) with found | ⟨_, _, ⟨cause, rfl⟩, refused⟩
    · exact .inr ⟨_, found, rebuilt⟩
    · exact .inl ⟨cause, refused⟩

theorem read_write_builds_same_of_example :
    Storable Example.definitions ∧ Reloads Example.definitions Example.registry := by
  have storable : Storable Example.definitions := by decide +kernel
  exact ⟨storable, read_write_builds_same Example.build_definitions (by decide +kernel) storable⟩

/-- The definitions make a registry, but another one when they are read back. -/
def Changes (definitions : List PivotDefinition) : Prop :=
  (∀ pivot ∈ definitions, pivot.Textual) ∧
    ∃ registry, Registry.build definitions = .ok registry ∧ ¬ Reloads definitions registry

def digest (pivot : Pivot) : String × String × List String :=
  (pivot.name, pivot.key.shown, pivot.choices.map (·.description.shown))

theorem changes_of_digest {definitions reloaded : List PivotDefinition} {warnings : List ConfigWarning}
    (textual : ∀ pivot ∈ definitions, pivot.Textual)
    (accepted : (Registry.build definitions).isOk = true)
    (result : read (write definitions) = .ok ⟨reloaded, warnings⟩)
    (differ : ((Registry.inhabited reloaded).map Pivot.ofDefinition).map digest ≠
      ((Registry.inhabited definitions).map Pivot.ofDefinition).map digest) :
    Changes definitions := by
  refine ⟨textual, ?_⟩
  cases built : Registry.build definitions with
  | error cause =>
      rw [built] at accepted
      contradiction
  | ok registry =>
      refine ⟨registry, rfl, ?_⟩
      rw [Reloads, result]
      intro either
      rcases either with ⟨_, contradictory⟩ | ⟨found, same, rebuilt⟩
      · cases contradictory
      · rw [← Except.ok.inj same] at rebuilt
        rw [← Registry.pivots_of_build rebuilt, ← Registry.pivots_of_build built] at differ
        exact differ rfl

/-- The last body of a choice is written, but its first declaration counts. -/
def repeatedChoice : List PivotDefinition := [
  { name := "P"
    choices := [{ name := "a", description := .text "one" }, { name := "a", description := .text "two" }] }]

/-- The body of a choice stands where the key of its pivot is read. -/
def reservedChoice : List PivotDefinition := [
  { name := "P", choices := [{ name := "key", description := .text "one" }] }]

/-- The last definition of a name is written, but the first one is the one with choices. -/
def emptyNamesake : List PivotDefinition := [
  { name := "P", choices := [{ name := "a" }] }, { name := "P" }]

/-- The pivot is taken for the whole document. -/
def wrapperAlone : List PivotDefinition := [
  { name := "configurations", choices := [{ name := "choices", aliases := ["a"] }] }]

theorem read_write_changes_registry :
    Changes repeatedChoice ∧ Changes reservedChoice ∧ Changes emptyNamesake ∧ Changes wrapperAlone := by
  have repeated : read (write repeatedChoice) = .ok ⟨[
      { name := "P", choices := [{ name := "a", description := .text "two" }] }], []⟩ := by rfl
  have reserved : read (write reservedChoice) = .ok ⟨[
      { name := "P"
        key := .map [(.text "description", .text "one")]
        choices := [{ name := "key", description := .text "one" }] }], []⟩ := by rfl
  have emptied : read (write emptyNamesake) = .ok ⟨[{ name := "P" }], []⟩ := by rfl
  have unwrapped : read (write wrapperAlone) = .ok ⟨[{ name := "choices" }],
      [.pivotKey "choices" "aliases"]⟩ := by rfl
  refine ⟨?_, ?_, ?_, ?_⟩
  · exact changes_of_digest (by decide +kernel) (by decide +kernel) repeated (by decide +kernel)
  · exact changes_of_digest (by decide +kernel) (by decide +kernel) reserved (by decide +kernel)
  · exact changes_of_digest (by decide +kernel) (by decide +kernel) emptied (by decide +kernel)
  · exact changes_of_digest (by decide +kernel) (by decide +kernel) unwrapped (by decide +kernel)

end Variants.Config
