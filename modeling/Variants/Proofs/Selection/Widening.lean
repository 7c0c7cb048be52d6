import Variants.Example
import Variants.Proofs.Condition.Meaning
import Variants.Proofs.Selection.Dropping

/-!
Widening and unions row by row. A table widened to more pivots has each row that extends one of its
combinations by declared choices, and has it once; a union has the rows of both sides so widened.
-/

namespace Variants.Combinations

variable {registry : Registry} {table : Combinations} {pivots : List String}

/-- A row over `pivots` that restricts to a combination of the table and has declared choices for all
other pivots. -/
def Extends (registry : Registry) (table : Combinations) (pivots : List String) (row : Row) : Prop :=
  row.length = pivots.length ∧ row.restrict pivots table.pivots ∈ table.rows ∧
    ∀ entry ∈ pivots.zip row, entry.1 ∉ table.pivots → registry.Declares entry.1 entry.2

/-- Assignments for the given pivots that are the rows extending a combination of the table, each once. -/
structure Widens (registry : Registry) (table : Combinations) (pivots : List String)
    (assignments : List Assignment) : Prop where
  keys : ∀ assignment ∈ assignments, (assignment.map Prod.fst).Perm pivots
  distinct : (assignments.map (Assignment.row · pivots)).Nodup
  rows : ∀ row, row ∈ assignments.map (Assignment.row · pivots) ↔ table.Extends registry pivots row
  counted : assignments.length = table.rows.length *
    ((table.missingPivots pivots).map fun pivot => (registry.domain pivot).length).foldr (· * ·) 1

theorem extends_map_iff (covers : ∀ pivot ∈ table.pivots, pivot ∈ pivots) {chosen : String → String} :
    table.Extends registry pivots (pivots.map chosen) ↔
      table.Contains chosen ∧
        ∀ pivot ∈ table.missingPivots pivots, chosen pivot ∈ registry.domain pivot := by
  rw [Extends, Row.restrict_map covers, Assignment.zip_map_eq_ofChosen, Assignment.ofChosen]
  simp only [List.length_map, List.forall_mem_map, mem_missingPivots, Registry.mem_domain, and_imp,
    true_and]
  rfl

theorem missingPivots_ascending_append (table : Combinations) (pivots : List String) :
    table.missingPivots (ascending (table.pivots ++ pivots)) = table.missingPivots pivots := by
  apply eq_of_pairwise_lt ((pairwise_ascending _).filter _) ((pairwise_ascending _).filter _)
  intro pivot
  have widely := @mem_missingPivots table (ascending (table.pivots ++ pivots)) pivot
  have narrowly := @mem_missingPivots table pivots pivot
  rw [missingPivots] at widely narrowly
  rw [widely, narrowly, mem_ascending, List.mem_append]
  exact and_congr_left fun absent => or_iff_right absent

theorem expand_ascending_append (registry : Registry) (table : Combinations) (pivots : List String) :
    table.expand registry (ascending (table.pivots ++ pivots)) = table.expand registry pivots := by
  rw [expand, expand, missingPivots_ascending_append]

theorem row_ofChosen_eq (covers : ∀ pivot ∈ table.pivots, pivot ∈ pivots) (chosen : String → String) :
    Assignment.row (.ofChosen (table.pivots ++ table.missingPivots pivots) chosen) pivots =
      pivots.map chosen := by
  rw [Assignment.row_eq_map_chosen]
  apply List.map_congr_left
  intro pivot member
  exact Assignment.chosen_ofChosen ((mem_pivots_append_missingPivots covers pivot).mpr member) chosen

theorem nodup_rows_widened (covers : ∀ pivot ∈ table.pivots, pivot ∈ pivots) :
    ((table.widened registry pivots).map (Assignment.row · pivots)).Nodup := by
  have extras := nodup_choicesProduct_domains registry (table.missingPivots pivots)
  rw [widened_eq_map_product, List.map_map]
  apply (table.nodup_rows.product extras).map_on
  intro first firstMember second secondMember same
  -- Rows that are the same over all pivots come from one combination and the same added choices.
  obtain ⟨one, rfl⟩ := exists_chosen_of_mem_product firstMember
  obtain ⟨other, rfl⟩ := exists_chosen_of_mem_product secondMember
  simp only [Function.comp_apply, Assignment.zip_map_eq_ofChosen, ← Assignment.ofChosen_append,
    row_ofChosen_eq covers, List.map_inj_left] at same
  have agree : ∀ pivot ∈ table.pivots ++ table.missingPivots pivots, one pivot = other pivot :=
    fun pivot member => same pivot ((mem_pivots_append_missingPivots covers pivot).mp member)
  rw [Prod.mk.injEq]
  exact ⟨List.map_congr_left fun pivot own => agree pivot (List.mem_append_left _ own),
    List.map_congr_left fun pivot added => agree pivot (List.mem_append_right _ added)⟩

theorem length_widened (registry : Registry) (table : Combinations) (pivots : List String) :
    (table.widened registry pivots).length = table.rows.length *
      ((table.missingPivots pivots).map fun pivot => (registry.domain pivot).length).foldr (· * ·) 1 := by
  rw [widened_eq_map_product, List.length_map, List.length_product, length_choicesProduct, List.map_map]
  rfl

theorem mem_rows_widened_iff (distinct : pivots.Nodup) (covers : ∀ pivot ∈ table.pivots, pivot ∈ pivots)
    (row : Row) : row ∈ (table.widened registry pivots).map (Assignment.row · pivots) ↔
      table.Extends registry pivots row := by
  rw [List.mem_map]
  constructor
  · intro given
    rcases given with ⟨_, member, rfl⟩
    obtain ⟨chosen, contained, declared, rfl⟩ := mem_widened_iff.mp member
    rw [row_ofChosen_eq covers]
    exact (extends_map_iff covers).mpr ⟨contained, declared⟩
  · intro extended
    obtain ⟨chosen, rfl⟩ := exists_map_chosen_eq distinct extended.1
    obtain ⟨contained, declared⟩ := (extends_map_iff covers).mp extended
    exact ⟨_, mem_widened_iff.mpr ⟨chosen, contained, declared, rfl⟩, row_ofChosen_eq covers chosen⟩

theorem widens_widened (registry : Registry) (distinct : pivots.Nodup)
    (covers : ∀ pivot ∈ table.pivots, pivot ∈ pivots) :
    table.Widens registry pivots (table.widened registry pivots) where
  keys := by
    intro assignment member
    obtain ⟨chosen, _, _, rfl⟩ := mem_widened_iff.mp member
    have keys : (Assignment.ofChosen (table.pivots ++ table.missingPivots pivots) chosen).map Prod.fst =
        table.pivots ++ table.missingPivots pivots := by
      simp [Assignment.ofChosen, Function.comp_def]
    rw [keys]
    exact (List.perm_ext_iff_of_nodup (table.nodup_pivots_append_missingPivots pivots) distinct).mpr
      (mem_pivots_append_missingPivots covers)
  distinct := nodup_rows_widened covers
  rows := mem_rows_widened_iff distinct covers
  counted := length_widened registry table pivots

theorem expand_eq_error {name : String} (first : (table.missingPivots pivots).find?
      (fun pivot => decide (pivot ∉ registry.names)) = some name) :
    table.expand registry pivots = .error (.unknownPivot name) := by
  obtain ⟨unknown, before, after, split, earlier⟩ := List.find?_eq_some_iff_append.mp first
  have stops : (table.missingPivots pivots).mapM registry.choices = .error (.unknownPivot name) := by
    apply Outcome.mapM_eq_error_iff.mpr
    refine ⟨before, name, after, split, ?_, Registry.choices_eq_error (of_decide_eq_true unknown)⟩
    intro pivot member
    exact ⟨_, Registry.choices_eq_ok (by simpa using earlier pivot member)⟩
  rw [expand, stops]
  rfl

theorem exists_expand_eq_error
    (unknown : ∃ pivot ∈ pivots, pivot ∉ table.pivots ∧ pivot ∉ registry.names) :
    ∃ pivot ∈ pivots, pivot ∉ table.pivots ∧ pivot ∉ registry.names ∧
      table.expand registry pivots = .error (.unknownPivot pivot) := by
  obtain ⟨pivot, member, missing, strange⟩ := unknown
  cases first : (table.missingPivots pivots).find? fun pivot => decide (pivot ∉ registry.names) with
  | none =>
      have passed := List.find?_eq_none.mp first pivot (mem_missingPivots.mpr ⟨member, missing⟩)
      exact absurd (decide_eq_true strange) passed
  | some name =>
      obtain ⟨asked, absent⟩ := mem_missingPivots.mp (List.mem_of_find?_eq_some first)
      have notKnown : name ∉ registry.names := by simpa using List.find?_some first
      exact ⟨name, asked, absent, notKnown, expand_eq_error first⟩

theorem expand_widens (known : ∀ pivot ∈ pivots, pivot ∉ table.pivots → pivot ∈ registry.names) :
    ∃ assignments, table.expand registry pivots = .ok assignments ∧
      table.Widens registry (ascending (table.pivots ++ pivots)) assignments := by
  have covers : ∀ pivot ∈ table.pivots, pivot ∈ ascending (table.pivots ++ pivots) := by
    intro pivot own
    exact mem_ascending.mpr (List.mem_append_left pivots own)
  refine ⟨_, ?_, widens_widened registry (nodup_ascending _) covers⟩
  rw [← expand_ascending_append]
  apply expand_eq_ok
  rw [missingPivots_ascending_append]
  intro pivot added
  obtain ⟨member, missing⟩ := mem_missingPivots.mp added
  exact known pivot member missing

theorem exists_union_rows {left right : Combinations}
    (leftKnown : ∀ pivot ∈ left.pivots, pivot ∉ right.pivots → pivot ∈ registry.names)
    (rightKnown : ∀ pivot ∈ right.pivots, pivot ∉ left.pivots → pivot ∈ registry.names) :
    ∃ joined, left.union registry right = .ok joined ∧
      joined.pivots = ascending (left.pivots ++ right.pivots) ∧
      ∀ row, row ∈ joined.rows ↔
        left.Extends registry joined.pivots row ∨ right.Extends registry joined.pivots row := by
  obtain ⟨joined, result, pivots, contains⟩ := exists_union_eq_ok leftKnown rightKnown
  have fewer (table : Combinations) : table.missingPivots joined.pivots =
      table.missingPivots (left.pivots ++ right.pivots) := by
    rw [missingPivots, missingPivots, pivots, ascending_of_pairwise_lt (pairwise_ascending _)]
  have leftCovers : ∀ pivot ∈ left.pivots, pivot ∈ joined.pivots := by
    intro pivot own
    rw [pivots, mem_ascending]
    exact List.mem_append_left _ own
  have rightCovers : ∀ pivot ∈ right.pivots, pivot ∈ joined.pivots := by
    intro pivot own
    rw [pivots, mem_ascending]
    exact List.mem_append_right _ own
  refine ⟨joined, result, pivots, ?_⟩
  intro row
  have rows : row ∈ joined.rows ↔ row.length = joined.pivots.length ∧
      (left.Extends registry joined.pivots row ∨ right.Extends registry joined.pivots row) := by
    apply mem_rows_iff
    intro chosen
    rw [extends_map_iff leftCovers, extends_map_iff rightCovers, fewer, fewer]
    exact contains chosen
  rw [rows]
  apply and_iff_right_of_imp
  intro either
  rcases either with extended | extended
  · exact extended.1
  · exact extended.1

theorem union_comm {left right joined : Combinations}
    (leftKnown : ∀ pivot ∈ left.pivots, pivot ∉ right.pivots → pivot ∈ registry.names)
    (rightKnown : ∀ pivot ∈ right.pivots, pivot ∉ left.pivots → pivot ∈ registry.names)
    (result : left.union registry right = .ok joined) : right.union registry left = .ok joined := by
  obtain ⟨_, same, pivots, rows⟩ := exists_union_rows leftKnown rightKnown
  rw [result, Except.ok.injEq] at same
  subst same
  obtain ⟨other, otherResult, otherPivots, otherRows⟩ := exists_union_rows rightKnown leftKnown
  have samePivots : other.pivots = joined.pivots := by
    rw [otherPivots, pivots, ascending_append_comm]
  have sameRows : other.rows = joined.rows := by
    apply eq_of_pairwise_lt other.rows_ascending joined.rows_ascending
    intro row
    rw [otherRows, rows, samePivots, or_comm]
  rw [otherResult, eq_of_pivots_of_rows samePivots sameRows]

/-- Widening gives every extension by declared choices once, or stops at a pivot that is unknown; a union
has exactly the rows that extend a combination of one side. -/
theorem expand_and_union_exact (registry : Registry) (table left right : Combinations)
    (pivots : List String) :
    ((∀ pivot ∈ pivots, pivot ∉ table.pivots → pivot ∈ registry.names) →
      ∃ assignments, table.expand registry pivots = .ok assignments ∧
        table.Widens registry (ascending (table.pivots ++ pivots)) assignments) ∧
    ((∃ pivot ∈ pivots, pivot ∉ table.pivots ∧ pivot ∉ registry.names) →
      ∃ pivot ∈ pivots, pivot ∉ table.pivots ∧ pivot ∉ registry.names ∧
        table.expand registry pivots = .error (.unknownPivot pivot)) ∧
    ((∀ pivot ∈ left.pivots, pivot ∉ right.pivots → pivot ∈ registry.names) →
      (∀ pivot ∈ right.pivots, pivot ∉ left.pivots → pivot ∈ registry.names) →
      ∃ joined, left.union registry right = .ok joined ∧ right.union registry left = .ok joined ∧
        joined.pivots = ascending (left.pivots ++ right.pivots) ∧
        ∀ row, row ∈ joined.rows ↔
          left.Extends registry joined.pivots row ∨ right.Extends registry joined.pivots row) := by
  refine ⟨expand_widens, exists_expand_eq_error, ?_⟩
  intro leftKnown rightKnown
  obtain ⟨joined, result, pivots, rows⟩ := exists_union_rows leftKnown rightKnown
  exact ⟨joined, result, union_comm leftKnown rightKnown result, pivots, rows⟩

theorem expand_and_union_exact_of_example :
    let table : Combinations :=
      ⟨["Linkage"], [["ltcg"], ["static"]], by decide, by decide, by decide⟩
    -- Both sides have a pivot that is unknown, so nobody looks it up.
    let left : Combinations :=
      ⟨["Compiler", "Configuration"], [["clang", "Debug"]], by decide, by decide, by decide⟩
    let right : Combinations :=
      ⟨["Compiler", "Platform"], [["clang", "x64"], ["gcc", "ARM"]], by decide, by decide, by decide⟩
    (∃ assignments, table.expand Example.registry ["Platform", "Configuration"] = .ok assignments ∧
        table.Widens Example.registry (ascending (table.pivots ++ ["Platform", "Configuration"]))
          assignments) ∧
      (∃ pivot ∈ ["Platform", "Compiler"], pivot ∉ table.pivots ∧ pivot ∉ Example.registry.names ∧
        table.expand Example.registry ["Platform", "Compiler"] = .error (.unknownPivot pivot)) ∧
      ∃ joined, left.union Example.registry right = .ok joined ∧
        right.union Example.registry left = .ok joined ∧
        joined.pivots = ascending (left.pivots ++ right.pivots) ∧
        ∀ row, row ∈ joined.rows ↔ left.Extends Example.registry joined.pivots row ∨
          right.Extends Example.registry joined.pivots row := by
  intro table left right
  have widens := expand_and_union_exact Example.registry table left right ["Platform", "Configuration"]
  have stops := expand_and_union_exact Example.registry table left right ["Platform", "Compiler"]
  exact ⟨widens.1 (by decide), stops.2.1 (by decide), widens.2.2 (by decide) (by decide)⟩

end Variants.Combinations
