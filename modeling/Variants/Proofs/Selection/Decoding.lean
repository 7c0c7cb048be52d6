import Mathlib.Data.List.Basic
import Mathlib.Data.List.Perm.Basic
import Variants.Proofs.Outcome
import Variants.Proofs.Selection.Meaning
import Variants.Selection.Document

/-!
Selections read from documents. A selection comes back from its own document, and neither the order of the
names and columns nor that of the rows counts. The rows are read under the names that stand beside their
entries: a row that is too short is refused, but of one that is too long the rest is cut off.
-/

namespace Variants

/-- The items at the given places, in that order. -/
def rearrange {α : Type} (places : List Nat) (items : List α) : List α :=
  places.filterMap (items[·]?)

theorem rearrange_range {α : Type} (items : List α) :
    rearrange (List.range items.length) items = items := by
  induction items with
  | nil => rfl
  | cons first rest ih =>
      rw [List.length_cons, List.range_succ_eq_map, rearrange, List.filterMap_cons, List.filterMap_map]
      exact congrArg (first :: ·) ih

theorem perm_rearrange {α : Type} {places : List Nat} {items : List α}
    (all : places.Perm (List.range items.length)) : (rearrange places items).Perm items := by
  have moved := all.filterMap (items[·]?)
  rwa [← rearrange, ← rearrange, rearrange_range] at moved

theorem zip_rearrange {α β : Type} (places : List Nat) {first : List α} {second : List β}
    (same : first.length = second.length) :
    (rearrange places first).zip (rearrange places second) = rearrange places (first.zip second) := by
  induction places with
  | nil => rfl
  | cons place rest ih =>
      simp only [rearrange, List.filterMap_cons] at ih ⊢
      by_cases inside : place < first.length
      · have insideToo : place < second.length := same ▸ inside
        have paired : (first.zip second)[place]? = some (first[place], second[place]) :=
          List.getElem?_zip_eq_some.mpr ⟨by simp [inside], by simp [insideToo]⟩
        rw [paired, List.getElem?_eq_getElem inside, List.getElem?_eq_getElem insideToo]
        exact congrArg (_ :: ·) ih
      · have outside := Nat.le_of_not_lt inside
        have outsideToo : second.length ≤ place := same ▸ outside
        have outsideBoth : (first.zip second).length ≤ place :=
          List.length_zip ▸ Nat.le_trans (Nat.min_le_left _ _) outside
        rw [List.getElem?_eq_none outside, List.getElem?_eq_none outsideToo,
          List.getElem?_eq_none outsideBoth]
        exact ih

theorem keys_zip {α : Type} (names : List String) (row : List α) :
    (names.zip row).map Prod.fst = names.take row.length := by
  induction names generalizing row with
  | nil => simp
  | cons name rest ih =>
      cases row with
      | nil => rfl
      | cons entry others => exact congrArg (name :: ·) (ih others)

theorem nodup_keys_zip {α : Type} {names : List String} (distinct : names.Nodup) (row : List α) :
    ((names.zip row).map Prod.fst).Nodup := by
  rw [keys_zip]
  exact distinct.sublist (List.take_sublist _ _)

theorem lookup_eq_some_iff_mem {α : Type} {entries : List (String × α)}
    (distinct : (entries.map Prod.fst).Nodup) {name : String} {entry : α} :
    entries.lookup name = some entry ↔ (name, entry) ∈ entries := by
  rw [List.lookup_eq_some_iff]
  constructor
  · intro given
    rcases given with ⟨before, after, rfl, _⟩
    simp
  · intro member
    obtain ⟨before, after, rfl⟩ := List.append_of_mem member
    refine ⟨before, after, rfl, ?_⟩
    intro other earlier
    rw [List.map_append, List.nodup_append] at distinct
    have differs := distinct.2.2 other.1 (List.mem_map_of_mem earlier) name List.mem_cons_self
    simpa [bne_iff_ne] using Ne.symm differs

theorem lookup_eq_of_perm {α : Type} {first second : List (String × α)}
    (distinct : (first.map Prod.fst).Nodup) (same : first.Perm second) (name : String) :
    first.lookup name = second.lookup name := by
  have distinctToo : (second.map Prod.fst).Nodup := (same.map Prod.fst).nodup distinct
  apply Option.ext
  intro entry
  rw [lookup_eq_some_iff_mem distinct, lookup_eq_some_iff_mem distinctToo, same.mem_iff]

theorem Assignment.row_eq_of_perm {first second : Assignment} (distinct : (first.map Prod.fst).Nodup)
    (same : first.Perm second) (pivots : List String) : first.row pivots = second.row pivots := by
  apply List.map_congr_left
  intro pivot _
  rw [lookup_eq_of_perm distinct same]

theorem Row.restrict_self {pivots : List String} {row : Row} (distinct : pivots.Nodup)
    (width : row.length = pivots.length) : row.restrict pivots pivots = row := by
  obtain ⟨chosen, rfl⟩ := exists_map_chosen_eq distinct width
  exact Row.restrict_map (fun _ member => member) chosen

theorem uncovered?_eq_find? {α : Type} (pivots : List String) (entries : List (String × α)) :
    uncovered? pivots entries =
      pivots.find? fun pivot => !(entries.map Prod.fst).contains pivot := by
  rw [uncovered?]
  congr 1
  funext pivot
  rw [Bool.eq_iff_iff, Option.isNone_iff_eq_none, List.lookup_eq_none_iff]
  grind

theorem uncovered?_eq_none_iff {α : Type} {pivots : List String} {entries : List (String × α)} :
    uncovered? pivots entries = none ↔ ∀ pivot ∈ pivots, pivot ∈ entries.map Prod.fst := by
  simp only [uncovered?_eq_find?, List.find?_eq_none, Bool.not_eq_true', Bool.not_eq_false,
    List.contains_iff_mem]

namespace Selection

/-- The document of combinations with the given names and rows, in the order in which they are given. -/
def tableValue (names : List String) (rows : List Row) : Value :=
  .map [(.text "type", .text "combinations"), (.text "relevant", Value.ofTexts names),
    (.text "combinations", .list (rows.map Value.ofTexts))]

/-- What is read of a row under the given names. -/
def readRow (names : List String) (row : Row) : Assignment :=
  (names.zip row).reverse

theorem keys_readRow (names : List String) (row : Row) :
    (readRow names row).map Prod.fst = (names.take row.length).reverse := by
  rw [readRow, List.map_reverse, keys_zip]

theorem uncovered?_entriesFor (names pivots : List String) (row : Row) :
    uncovered? pivots (entriesFor names (row.map Value.text)) = uncovered? pivots (readRow names row) := by
  rw [uncovered?_eq_find?, uncovered?_eq_find?, keys_readRow, entriesFor, List.map_reverse, keys_zip,
    List.length_map]

theorem assignmentOf_entriesFor (names : List String) (row : Row) :
    assignmentOf (entriesFor names (row.map Value.text)) = .ok (readRow names row) := by
  have written : entriesFor names (row.map Value.text) =
      (readRow names row).map fun entry => (entry.1, Value.text entry.2) := by
    rw [entriesFor, readRow, List.zip_map_right, List.map_reverse]
    rfl
  rw [assignmentOf, written, List.mapM_map]
  exact (Outcome.mapM_eq_ok_map fun _ _ => rfl).trans (congrArg _ (List.map_id _))

theorem ofValue_tableValue (names : List String) (rows : List Row) :
    ofValue (tableValue names rows) =
      (Combinations.ofAssignments? names (rows.map (readRow names))).map combinations := by
  have namesRead : (names.map Value.text).mapM nameOf = .ok names := by
    rw [List.mapM_map]
    exact (Outcome.mapM_eq_ok_map fun _ _ => rfl).trans (congrArg _ (List.map_id names))
  have cells : (rows.map Value.ofTexts).mapM members = .ok (rows.map (·.map Value.text)) := by
    rw [List.mapM_map]
    exact Outcome.mapM_eq_ok_map fun _ _ => rfl
  have uncovered : ((rows.map (·.map Value.text)).map (entriesFor names)).findSome?
      (uncovered? (ascending names)) =
        (rows.map (readRow names)).findSome? (uncovered? (ascending names)) := by
    simp only [List.findSome?_map, Function.comp_def, uncovered?_entriesFor]
  have rowsRead : ((rows.map (·.map Value.text)).map (entriesFor names)).mapM assignmentOf =
      .ok (rows.map (readRow names)) := by
    rw [List.map_map, List.mapM_map]
    exact Outcome.mapM_eq_ok_map fun row _ => assignmentOf_entriesFor names row
  obtain ⟨entries, whole, kind, relevant, table⟩ : ∃ entries, tableValue names rows = .map entries ∧
      Entries.field entries "type" = .text "combinations" ∧
      required entries "relevant" = .ok (Value.ofTexts names) ∧
      required entries "combinations" = .ok (.list (rows.map Value.ofTexts)) := ⟨_, rfl, rfl, rfl, rfl⟩
  have namesListed : members (Value.ofTexts names) = .ok (names.map Value.text) := rfl
  have rowsListed : members (.list (rows.map Value.ofTexts)) = .ok (rows.map Value.ofTexts) := rfl
  rw [whole, ofValue, Combinations.ofAssignments?]
  simp only [kind, relevant, table, namesListed, rowsListed, namesRead, cells, bind, Except.bind, uncovered,
    rowsRead]
  cases (rows.map (readRow names)).findSome? (uncovered? (ascending names)) with
  | some pivot => rfl
  | none => rfl

theorem row_readRow {names : List String} (distinct : names.Nodup) (row : Row) (pivots : List String) :
    (readRow names row).row pivots = row.restrict names pivots := by
  apply Assignment.row_eq_of_perm
  · rw [keys_readRow]
    exact (List.reverse_perm _).symm.nodup (distinct.sublist (List.take_sublist _ _))
  · exact List.reverse_perm _

theorem readRow_take (names : List String) (row : Row) :
    readRow names (row.take names.length) = readRow names row := by
  rw [readRow, readRow]
  congr 1
  induction names generalizing row with
  | nil => simp
  | cons name rest ih =>
      cases row with
      | nil => rfl
      | cons entry others => exact congrArg (_ :: ·) (ih others)

theorem uncovered?_readRow_eq_none_iff {names : List String} (distinct : names.Nodup) (row : Row) :
    uncovered? (ascending names) (readRow names row) = none ↔ names.length ≤ row.length := by
  simp only [uncovered?_eq_none_iff, keys_readRow, mem_ascending, List.mem_reverse]
  constructor
  · intro covered
    have all := distinct.length_le_of_subset covered
    exact Nat.le_trans all (List.length_take_le _ _)
  · intro wide name member
    rwa [List.take_of_length_le wide]

theorem mem_drop_of_uncovered?_readRow {names : List String} {row : Row} {name : String}
    (missed : uncovered? (ascending names) (readRow names row) = some name) :
    name ∈ names.drop row.length := by
  rw [uncovered?_eq_find?] at missed
  have member := mem_ascending.mp (List.mem_of_find?_eq_some missed)
  have absent := List.find?_some missed
  rw [← List.take_append_drop row.length names, List.mem_append] at member
  apply member.resolve_left
  simpa [keys_readRow] using absent

theorem ofValue_tableValue_of_wide {names : List String} {rows : List Row}
    (distinct : names.Nodup) (wide : ∀ row ∈ rows, names.length ≤ row.length) :
    ofValue (tableValue names rows) =
      .ok (combinations (.ofAssignments names (rows.map (readRow names)))) := by
  have covered : (rows.map (readRow names)).findSome? (uncovered? (ascending names)) = none := by
    rw [List.findSome?_eq_none_iff]
    intro assignment member
    obtain ⟨row, given, rfl⟩ := List.mem_map.mp member
    exact (uncovered?_readRow_eq_none_iff distinct row).mpr (wide row given)
  rw [ofValue_tableValue, Combinations.ofAssignments?, covered]
  rfl

theorem mem_rows_ofAssignments_readRow {names : List String} (distinct : names.Nodup) {rows : List Row}
    {row : Row} :
    row ∈ (Combinations.ofAssignments names (rows.map (readRow names))).rows ↔
      ∃ given ∈ rows, row = given.restrict names (ascending names) := by
  refine mem_ascending.trans ?_
  rw [List.map_map, List.mem_map]
  simp only [Function.comp_apply, row_readRow distinct, eq_comm]

theorem ofValue_eq_error_of_short {names : List String} (distinct : names.Nodup) {rows : List Row}
    (short : ∃ row ∈ rows, row.length < names.length) :
    ∃ row ∈ rows, ∃ name ∈ names.drop row.length,
      ofValue (tableValue names rows) = .error (.missing name) := by
  cases missed : (rows.map (readRow names)).findSome? (uncovered? (ascending names)) with
  | none =>
      obtain ⟨row, given, narrow⟩ := short
      have covered := List.findSome?_eq_none_iff.mp missed _ (List.mem_map_of_mem given)
      have wide := (uncovered?_readRow_eq_none_iff distinct row).mp covered
      omega
  | some name =>
      obtain ⟨assignment, member, uncovered⟩ := List.exists_of_findSome?_eq_some missed
      obtain ⟨row, given, rfl⟩ := List.mem_map.mp member
      refine ⟨row, given, name, mem_drop_of_uncovered?_readRow uncovered, ?_⟩
      rw [ofValue_tableValue, Combinations.ofAssignments?, missed]
      rfl

/-- The same table written another way: the names and the columns of all rows are moved alike, and the
rows stand in any order and number. -/
inductive Rearranges (names : List String) (rows : List Row) (otherNames : List String)
    (otherRows : List Row) : Prop
  | intro (places : List Nat) (all : places.Perm (List.range names.length))
      (columns : otherNames = rearrange places names)
      (moved : ∀ row, row ∈ otherRows ↔ ∃ given ∈ rows, row = rearrange places given)

theorem restrict_rearrange {names : List String} {row : Row} {places : List Nat} (distinct : names.Nodup)
    (width : row.length = names.length) (all : places.Perm (List.range names.length))
    (pivots : List String) :
    Row.restrict (rearrange places row) (rearrange places names) pivots = row.restrict names pivots := by
  have moved : ((rearrange places names).zip (rearrange places row)).Perm (names.zip row) := by
    rw [zip_rearrange places width.symm]
    apply perm_rearrange
    simpa [width] using all
  exact (Assignment.row_eq_of_perm (nodup_keys_zip distinct row) moved.symm pivots).symm

theorem nodup_of_rearranges {names otherNames : List String} {rows otherRows : List Row}
    (distinct : names.Nodup) (rearranges : Rearranges names rows otherNames otherRows) :
    otherNames.Nodup := by
  obtain ⟨places, all, rfl, _⟩ := rearranges
  exact (perm_rearrange all).symm.nodup distinct

theorem ofAssignments_readRow_of_rearranges {names otherNames : List String} {rows otherRows : List Row}
    (distinct : names.Nodup) (width : ∀ row ∈ rows, row.length = names.length)
    (rearranges : Rearranges names rows otherNames otherRows) :
    Combinations.ofAssignments otherNames (otherRows.map (readRow otherNames)) =
      Combinations.ofAssignments names (rows.map (readRow names)) := by
  have distinctToo := nodup_of_rearranges distinct rearranges
  obtain ⟨places, all, rfl, moved⟩ := rearranges
  have permuted := perm_rearrange all
  have pivots : ascending (rearrange places names) = ascending names :=
    ascending_congr fun _ => permuted.mem_iff
  apply Combinations.eq_of_pivots_of_rows pivots
  apply eq_of_pairwise_lt (Combinations.rows_ascending _) (Combinations.rows_ascending _)
  intro row
  rw [mem_rows_ofAssignments_readRow distinctToo, mem_rows_ofAssignments_readRow distinct, pivots]
  constructor
  · intro given
    rcases given with ⟨_, member, rfl⟩
    obtain ⟨given, present, rfl⟩ := (moved _).mp member
    exact ⟨given, present, restrict_rearrange distinct (width given present) all _⟩
  · intro given
    rcases given with ⟨given, present, rfl⟩
    refine ⟨_, (moved _).mpr ⟨given, present, rfl⟩, ?_⟩
    exact (restrict_rearrange distinct (width given present) all _).symm

theorem length_of_rearranges {names otherNames : List String} {rows otherRows : List Row}
    (width : ∀ row ∈ rows, row.length = names.length)
    (rearranges : Rearranges names rows otherNames otherRows) :
    ∀ row ∈ otherRows, row.length = otherNames.length := by
  obtain ⟨places, all, rfl, moved⟩ := rearranges
  intro row member
  obtain ⟨given, present, rfl⟩ := (moved row).mp member
  have permuted : (rearrange places given).Perm given := by
    apply perm_rearrange
    rwa [width given present]
  rw [permuted.length_eq, width given present, (perm_rearrange all).length_eq]

theorem ofValue_toValue (selection : Selection) : ofValue selection.toValue = .ok selection := by
  cases selection with
  | constant holds => cases holds <;> rfl
  | combinations table =>
      have written : toValue (combinations table) = tableValue table.pivots table.rows := rfl
      have wide : ∀ row ∈ table.rows, table.pivots.length ≤ row.length :=
        fun row member => Nat.le_of_eq (table.rows_width row member).symm
      have pivots : ascending table.pivots = table.pivots :=
        ascending_of_pairwise_lt table.pivots_ascending
      have unchanged : ∀ row ∈ table.rows, row.restrict table.pivots table.pivots = row :=
        fun row member => Row.restrict_self table.nodup_pivots (table.rows_width row member)
      have same : Combinations.ofAssignments table.pivots (table.rows.map (readRow table.pivots)) =
          table := by
        apply Combinations.eq_of_pivots_of_rows pivots
        apply eq_of_pairwise_lt (Combinations.rows_ascending _) table.rows_ascending
        intro row
        rw [mem_rows_ofAssignments_readRow table.nodup_pivots, pivots]
        constructor
        · intro given
          rcases given with ⟨given, present, rfl⟩
          rwa [unchanged given present]
        · intro member
          exact ⟨row, member, (unchanged row member).symm⟩
      rw [written, ofValue_tableValue_of_wide table.nodup_pivots wide, same]

/-- A selection comes back from its document. However the names, columns and rows of a document of
combinations are laid out, its combinations are the rows aligned to the names in order. -/
theorem ofValue_restores_in_any_layout :
    (∀ selection : Selection, ofValue selection.toValue = .ok selection) ∧
    ∀ (names : List String) (rows : List Row), names.Nodup →
      (∀ row ∈ rows, row.length = names.length) →
      ∃ table : Combinations, table.pivots = ascending names ∧
        (∀ row, row ∈ table.rows ↔ ∃ given ∈ rows, row = given.restrict names (ascending names)) ∧
        ofValue (tableValue names rows) = .ok (combinations table) ∧
        ∀ otherNames otherRows, Rearranges names rows otherNames otherRows →
          ofValue (tableValue otherNames otherRows) = .ok (combinations table) := by
  refine ⟨ofValue_toValue, ?_⟩
  intro names rows distinct width
  have wide : ∀ row ∈ rows, names.length ≤ row.length :=
    fun row member => Nat.le_of_eq (width row member).symm
  refine ⟨.ofAssignments names (rows.map (readRow names)), rfl, ?_,
    ofValue_tableValue_of_wide distinct wide, ?_⟩
  · intro row
    exact mem_rows_ofAssignments_readRow distinct
  · intro otherNames otherRows rearranges
    have widthToo := length_of_rearranges width rearranges
    have wideToo : ∀ row ∈ otherRows, otherNames.length ≤ row.length :=
      fun row member => Nat.le_of_eq (widthToo row member).symm
    rw [ofValue_tableValue_of_wide (nodup_of_rearranges distinct rearranges) wideToo,
      ofAssignments_readRow_of_rearranges distinct width rearranges]

theorem ofValue_restores_in_any_layout_of_example :
    let names := ["Platform", "Configuration"]
    let rows : List Row := [["x64", "Debug"], ["ARM", "Release"]]
    let otherNames := ["Configuration", "Platform"]
    let otherRows : List Row := [["Release", "ARM"], ["Debug", "x64"], ["Release", "ARM"]]
    names.Nodup ∧ (∀ row ∈ rows, row.length = names.length) ∧
      Rearranges names rows otherNames otherRows ∧
      ∃ table : Combinations, table.pivots = ascending names ∧
        (∀ row, row ∈ table.rows ↔ ∃ given ∈ rows, row = given.restrict names (ascending names)) ∧
        ofValue (tableValue names rows) = .ok (combinations table) ∧
        ofValue (tableValue otherNames otherRows) = .ok (combinations table) := by
  intro names rows otherNames otherRows
  have distinct : names.Nodup := by decide
  have width : ∀ row ∈ rows, row.length = names.length := by decide
  have rearranges : Rearranges names rows otherNames otherRows := by
    refine .intro [1, 0] (by decide) rfl ?_
    intro row
    simpa [rows, otherRows, rearrange] using Or.inr
  obtain ⟨table, pivots, aligned, read, reads⟩ :=
    ofValue_restores_in_any_layout.2 names rows distinct width
  exact ⟨distinct, width, rearranges, table, pivots, aligned, read, reads _ _ rearranges⟩

/-- A document of distinct names is read exactly if no row is too short, and it fails for a name that is
missed. What a row has beyond the names is cut off, so rows have one entry for each name where none is too
long. -/
theorem ofValue_refuses_short_rows (names : List String) (rows : List Row) (distinct : names.Nodup) :
    ((∃ selection, ofValue (tableValue names rows) = .ok selection) ↔
      ∀ row ∈ rows, names.length ≤ row.length) ∧
    ((∃ row ∈ rows, row.length < names.length) → ∃ row ∈ rows, ∃ name ∈ names.drop row.length,
      ofValue (tableValue names rows) = .error (.missing name)) ∧
    ofValue (tableValue names rows) = ofValue (tableValue names (rows.map (·.take names.length))) ∧
    ((∀ row ∈ rows, row.length ≤ names.length) →
      ∀ selection, ofValue (tableValue names rows) = .ok selection →
        ∀ row ∈ rows, row.length = names.length) := by
  have readable : (∃ selection, ofValue (tableValue names rows) = .ok selection) ↔
      ∀ row ∈ rows, names.length ≤ row.length := by
    constructor
    · intro given row member
      rcases given with ⟨selection, read⟩
      by_contra narrow
      obtain ⟨_, _, name, _, fails⟩ :=
        ofValue_eq_error_of_short distinct ⟨row, member, Nat.lt_of_not_le narrow⟩
      rw [read] at fails
      contradiction
    · intro wide
      exact ⟨_, ofValue_tableValue_of_wide distinct wide⟩
  refine ⟨readable, ofValue_eq_error_of_short distinct, ?_, ?_⟩
  · rw [ofValue_tableValue, ofValue_tableValue, List.map_map]
    simp only [Function.comp_def, readRow_take]
  · intro narrow selection read row member
    exact Nat.le_antisymm (narrow row member) (readable.mp ⟨selection, read⟩ row member)

theorem ofValue_refuses_short_rows_of_example :
    let names := ["Platform", "Configuration"]
    let rows : List Row := [["x64", "Debug"], ["ARM"]]
    names.Nodup ∧ (∃ row ∈ rows, row.length < names.length) ∧
      (∃ row ∈ rows, ∃ name ∈ names.drop row.length,
        ofValue (tableValue names rows) = .error (.missing name)) ∧
      ¬ ∃ selection, ofValue (tableValue names rows) = .ok selection := by
  intro names rows
  have distinct : names.Nodup := by decide
  have short : ∃ row ∈ rows, row.length < names.length := by decide
  have refuses := ofValue_refuses_short_rows names rows distinct
  refine ⟨distinct, short, refuses.2.1 short, ?_⟩
  rw [refuses.1]
  decide

/-- A row with an entry too many is read as if it ended earlier, though the same row is refused when
combinations are made of it directly. -/
theorem ofValue_cuts_long_row :
    let names := ["Configuration"]
    let row : Row := ["Debug", "Release"]
    names.Nodup ∧ row.length ≠ names.length ∧
      make? none names [row] = .error (.widthMismatch row names) ∧
      ofValue (tableValue names [row]) = .ok (combinations (.ofChoices "Configuration" ["Debug"])) := by
  decide +kernel

end Selection

end Variants
