import Mathlib.Data.List.ProdSigma
import Variants.Proofs.Outcome
import Variants.Proofs.Selection.Meaning
import Variants.Selection.Join

/-!
Joins and unions mean what they say: whichever way a join takes, its result contains what both sides
contain, over the pivots of both; a union contains what either side contains.
-/

namespace Variants

open Std (TreeMap TreeSet)

namespace Assignment

theorem chosen_merge_iff {left right : List String} {first second chosen : String → String}
    (agree : ∀ pivot ∈ left, pivot ∈ right → first pivot = second pivot) :
    (∀ pivot ∈ left ++ right,
        Assignment.chosen (ofChosen right second ++ ofChosen left first) pivot = chosen pivot) ↔
      (∀ pivot ∈ left, first pivot = chosen pivot) ∧ ∀ pivot ∈ right, second pivot = chosen pivot := by
  simp only [chosen_append_ofChosen, List.mem_append]
  constructor
  · intro merged
    constructor
    · intro pivot inLeft
      have entry := merged pivot (.inl inLeft)
      by_cases inRight : pivot ∈ right
      · rw [agree pivot inLeft inRight]
        simpa [inRight] using entry
      · simpa [inRight, inLeft] using entry
    · intro pivot inRight
      simpa [inRight] using merged pivot (.inr inRight)
  · intro given pivot member
    rcases given with ⟨fromLeft, fromRight⟩
    by_cases inRight : pivot ∈ right
    · simpa [inRight] using fromRight pivot inRight
    · have inLeft := member.resolve_right inRight
      simpa [inRight, inLeft] using fromLeft pivot inLeft

end Assignment

namespace Combinations

theorem contains_semiJoin {narrow wide : Combinations} {chosen : String → String}
    (inside : ∀ pivot ∈ narrow.pivots, pivot ∈ wide.pivots) :
    (semiJoin narrow wide).Contains chosen ↔ narrow.Contains chosen ∧ wide.Contains chosen := by
  have restricted : Assignment.row (wide.pivots.zip (wide.pivots.map chosen)) narrow.pivots =
      narrow.pivots.map chosen := Row.restrict_map inside chosen
  rw [Contains, semiJoin, List.mem_filter, restricted, TreeSet.contains_iff_mem, TreeSet.mem_ofList,
    List.contains_iff_mem]
  exact and_comm

/-- Rows that agree on the shared pivots, put together, are the natural join. -/
theorem exists_merge_iff (left right : Combinations) (chosen : String → String) :
    (∃ first second, (left.Contains first ∧ right.Contains second ∧
        ∀ pivot ∈ left.pivots, pivot ∈ right.pivots → first pivot = second pivot) ∧
      ∀ pivot ∈ left.pivots ++ right.pivots,
        Assignment.chosen (Assignment.ofChosen right.pivots second ++
          Assignment.ofChosen left.pivots first) pivot = chosen pivot) ↔
      left.Contains chosen ∧ right.Contains chosen := by
  constructor
  · intro given
    rcases given with ⟨first, second, ⟨inLeft, inRight, agree⟩, merged⟩
    obtain ⟨fromLeft, fromRight⟩ := (Assignment.chosen_merge_iff agree).mp merged
    exact ⟨(left.contains_congr fromLeft).mp inLeft, (right.contains_congr fromRight).mp inRight⟩
  · intro given
    rcases given with ⟨inLeft, inRight⟩
    refine ⟨chosen, chosen, ⟨inLeft, inRight, fun _ _ _ => rfl⟩, ?_⟩
    exact (Assignment.chosen_merge_iff fun _ _ _ => rfl).mpr ⟨fun _ _ => rfl, fun _ _ => rfl⟩

theorem contains_crossJoin {left right : Combinations} {chosen : String → String}
    (disjoint : ∀ pivot ∈ left.pivots, pivot ∉ right.pivots) :
    (crossJoin left right).Contains chosen ↔ left.Contains chosen ∧ right.Contains chosen := by
  rw [crossJoin, contains_ofAssignments, ← exists_merge_iff left right chosen]
  simp only [List.mem_flatMap, List.mem_map, mem_assignments_iff]
  constructor
  · intro given
    rcases given with ⟨_, ⟨_, ⟨first, inLeft, rfl⟩, _, ⟨second, inRight, rfl⟩, rfl⟩, merged⟩
    refine ⟨first, second, ⟨inLeft, inRight, ?_⟩, merged⟩
    intro pivot ofLeft ofRight
    exact absurd ofRight (disjoint pivot ofLeft)
  · intro given
    rcases given with ⟨first, second, ⟨inLeft, inRight, _⟩, merged⟩
    exact ⟨_, ⟨_, ⟨first, inLeft, rfl⟩, _, ⟨second, inRight, rfl⟩, rfl⟩, merged⟩

theorem getD_groups (pivots : List String) (assignments : List Assignment) (key : Row) :
    (groups pivots assignments).getD key [] = assignments.filter (·.row pivots == key) := by
  suffices grown : ∀ start : TreeMap Row (List Assignment),
      (assignments.foldl (fun groups assignment =>
        groups.insert (assignment.row pivots)
          (groups.getD (assignment.row pivots) [] ++ [assignment])) start).getD key [] =
        start.getD key [] ++ assignments.filter (·.row pivots == key) by
    simpa [groups] using grown {}
  induction assignments with
  | nil => simp
  | cons first rest ih =>
      intro start
      rw [List.foldl_cons, ih, TreeMap.getD_insert]
      by_cases same : first.row pivots = key
      · simp [same]
      · simp [same]

theorem contains_groupedJoin {shared : List String} {left right : Combinations}
    {chosen : String → String}
    (overlap : ∀ pivot, pivot ∈ shared ↔ pivot ∈ left.pivots ∧ pivot ∈ right.pivots) :
    (groupedJoin shared left right).Contains chosen ↔
      left.Contains chosen ∧ right.Contains chosen := by
  rw [groupedJoin, contains_ofAssignments, ← exists_merge_iff left right chosen]
  simp only [List.mem_flatMap, List.mem_map, getD_groups, List.mem_filter, mem_assignments_iff,
    beq_iff_eq, Assignment.row_eq_map_chosen, List.map_inj_left]
  -- Two rows are filed under the same key iff they agree on the shared pivots.
  have filed (first second : String → String) :
      (∀ pivot ∈ shared, Assignment.chosen (Assignment.ofChosen left.pivots first) pivot =
        Assignment.chosen (Assignment.ofChosen right.pivots second) pivot) ↔
      ∀ pivot ∈ left.pivots, pivot ∈ right.pivots → first pivot = second pivot := by
    constructor
    · intro same pivot inLeft inRight
      have entry := same pivot ((overlap pivot).mpr ⟨inLeft, inRight⟩)
      rwa [Assignment.chosen_ofChosen inLeft, Assignment.chosen_ofChosen inRight] at entry
    · intro agree pivot member
      obtain ⟨inLeft, inRight⟩ := (overlap pivot).mp member
      rw [Assignment.chosen_ofChosen inLeft, Assignment.chosen_ofChosen inRight]
      exact agree pivot inLeft inRight
  constructor
  · intro given
    rcases given with ⟨_, ⟨_, ⟨second, inRight, rfl⟩, _, ⟨⟨first, inLeft, rfl⟩, same⟩, rfl⟩, merged⟩
    exact ⟨first, second, ⟨inLeft, inRight, (filed first second).mp same⟩, merged⟩
  · intro given
    rcases given with ⟨first, second, ⟨inLeft, inRight, agree⟩, merged⟩
    exact ⟨_, ⟨_, ⟨second, inRight, rfl⟩, _, ⟨⟨first, inLeft, rfl⟩, (filed first second).mpr agree⟩,
      rfl⟩, merged⟩

theorem contains_joinOrdered {left right : Combinations} {chosen : String → String} :
    (joinOrdered left right).Contains chosen ↔ left.Contains chosen ∧ right.Contains chosen := by
  rw [joinOrdered]
  split
  · rename_i inside
    exact contains_semiJoin (by simpa using inside)
  · split
    · rename_i noneShared
      exact contains_crossJoin (by simpa using noneShared)
    · exact contains_groupedJoin (by simp)

theorem contains_intersect {left right : Combinations} {chosen : String → String} :
    (left.intersect right).Contains chosen ↔ left.Contains chosen ∧ right.Contains chosen := by
  rw [intersect]
  split
  · rw [contains_joinOrdered, and_comm]
  · exact contains_joinOrdered

theorem pivots_joinOrdered (left right : Combinations) :
    (joinOrdered left right).pivots = ascending (left.pivots ++ right.pivots) := by
  rw [joinOrdered]
  split
  · rename_i inside
    apply eq_of_pairwise_lt right.pivots_ascending (pairwise_ascending _)
    intro pivot
    rw [List.all_eq_true] at inside
    rw [mem_ascending, List.mem_append]
    constructor
    · exact .inr
    · intro either
      rcases either with inLeft | inRight
      · simpa using inside pivot inLeft
      · exact inRight
  · split <;> rfl

theorem pivots_intersect (left right : Combinations) :
    (left.intersect right).pivots = ascending (left.pivots ++ right.pivots) := by
  rw [intersect]
  split
  · rw [pivots_joinOrdered, ascending_append_comm]
  · exact pivots_joinOrdered left right

theorem Within.intersect {registry : Registry} {left right : Combinations}
    (leftWithin : left.Within registry) (rightWithin : right.Within registry) :
    (left.intersect right).Within registry := by
  obtain ⟨leftKnown, leftDeclared⟩ := within_iff.mp leftWithin
  obtain ⟨rightKnown, rightDeclared⟩ := within_iff.mp rightWithin
  apply within_iff.mpr
  simp only [pivots_intersect, mem_ascending, List.mem_append, contains_intersect]
  constructor
  · intro pivot either
    rcases either with inLeft | inRight
    · exact leftKnown pivot inLeft
    · exact rightKnown pivot inRight
  · intro chosen given pivot either
    rcases given with ⟨leftContains, rightContains⟩
    rcases either with inLeft | inRight
    · exact leftDeclared chosen leftContains pivot inLeft
    · exact rightDeclared chosen rightContains pivot inRight

theorem map_mem_choicesProduct {pivots : List String} {domain : String → List String}
    {chosen : String → String} :
    pivots.map chosen ∈ choicesProduct (pivots.map domain) ↔
      ∀ pivot ∈ pivots, chosen pivot ∈ domain pivot := by
  induction pivots with
  | nil => simp [choicesProduct]
  | cons pivot rest ih => simp [choicesProduct, ih]

theorem length_of_mem_choicesProduct {domains : List (List String)} {row : Row}
    (member : row ∈ choicesProduct domains) : row.length = domains.length := by
  induction domains generalizing row with
  | nil => simp_all [choicesProduct]
  | cons choices rest ih =>
      simp only [choicesProduct, List.mem_flatMap, List.mem_map] at member
      obtain ⟨choice, _, others, fits, rfl⟩ := member
      simp [ih fits]

theorem mem_missingPivots {table : Combinations} {pivots : List String} {pivot : String} :
    pivot ∈ table.missingPivots pivots ↔ pivot ∈ pivots ∧ pivot ∉ table.pivots := by
  simp [missingPivots]

theorem nodup_missingPivots (table : Combinations) (pivots : List String) :
    (table.missingPivots pivots).Nodup :=
  (nodup_ascending pivots).sublist List.filter_sublist

theorem mapM_choices_eq_ok {registry : Registry} {pivots : List String}
    (known : ∀ pivot ∈ pivots, pivot ∈ registry.names) :
    pivots.mapM registry.choices = .ok (pivots.map registry.domain) :=
  Outcome.mapM_eq_ok_map fun pivot member => Registry.choices_eq_ok (known pivot member)

/-- The combinations of a table with every way of making declared choices for the pivots it misses. -/
def widened (registry : Registry) (table : Combinations) (pivots : List String) : List Assignment :=
  table.assignments.flatMap fun assignment =>
    (choicesProduct ((table.missingPivots pivots).map registry.domain)).map fun extra =>
      assignment ++ (table.missingPivots pivots).zip extra

theorem expand_eq_ok {registry : Registry} {table : Combinations} {pivots : List String}
    (known : ∀ pivot ∈ table.missingPivots pivots, pivot ∈ registry.names) :
    table.expand registry pivots = .ok (table.widened registry pivots) := by
  rw [expand, mapM_choices_eq_ok known]
  rfl

theorem nodup_pivots_append_missingPivots (table : Combinations) (pivots : List String) :
    (table.pivots ++ table.missingPivots pivots).Nodup := by
  refine List.nodup_append.mpr ⟨table.nodup_pivots, table.nodup_missingPivots pivots, ?_⟩
  intro pivot own other added same
  exact (mem_missingPivots.mp added).2 (same ▸ own)

theorem mem_pivots_append_missingPivots {table : Combinations} {pivots : List String}
    (covers : ∀ pivot ∈ table.pivots, pivot ∈ pivots) (pivot : String) :
    pivot ∈ table.pivots ++ table.missingPivots pivots ↔ pivot ∈ pivots := by
  rw [List.mem_append, mem_missingPivots]
  constructor
  · intro either
    rcases either with own | added
    · exact covers pivot own
    · exact added.1
  · intro member
    by_cases own : pivot ∈ table.pivots
    · exact .inl own
    · exact .inr ⟨member, own⟩

theorem widened_eq_map_product (registry : Registry) (table : Combinations) (pivots : List String) :
    table.widened registry pivots =
      (table.rows ×ˢ choicesProduct ((table.missingPivots pivots).map registry.domain)).map
        fun pair => table.pivots.zip pair.1 ++ (table.missingPivots pivots).zip pair.2 := by
  rw [widened, assignments, List.flatMap_map]
  simp only [SProd.sprod, List.product, List.map_flatMap, List.map_map, Function.comp_def]

theorem exists_chosen_of_mem_product {registry : Registry} {table : Combinations}
    {pivots : List String} {pair : Row × Row} (member : pair ∈
      table.rows ×ˢ choicesProduct ((table.missingPivots pivots).map registry.domain)) :
    ∃ chosen : String → String,
      pair = (table.pivots.map chosen, (table.missingPivots pivots).map chosen) := by
  obtain ⟨present, declared⟩ := List.mem_product.mp member
  have rowWidth := table.rows_width _ present
  have extraWidth := length_of_mem_choicesProduct declared
  rw [List.length_map] at extraWidth
  have width : (pair.1 ++ pair.2).length = (table.pivots ++ table.missingPivots pivots).length := by
    rw [List.length_append, List.length_append, rowWidth, extraWidth]
  obtain ⟨chosen, fits⟩ := exists_map_chosen_eq (table.nodup_pivots_append_missingPivots pivots) width
  rw [List.map_append] at fits
  obtain ⟨own, added⟩ := List.append_inj fits (by simp [rowWidth])
  exact ⟨chosen, Prod.ext own.symm added.symm⟩

theorem mem_widened_iff {registry : Registry} {table : Combinations} {pivots : List String}
    {assignment : Assignment} :
    assignment ∈ table.widened registry pivots ↔ ∃ chosen : String → String, table.Contains chosen ∧
      (∀ pivot ∈ table.missingPivots pivots, chosen pivot ∈ registry.domain pivot) ∧
      assignment = Assignment.ofChosen (table.pivots ++ table.missingPivots pivots) chosen := by
  rw [widened_eq_map_product, List.mem_map]
  constructor
  · intro given
    rcases given with ⟨pair, member, rfl⟩
    obtain ⟨chosen, rfl⟩ := exists_chosen_of_mem_product member
    obtain ⟨contained, declared⟩ := List.mem_product.mp member
    refine ⟨chosen, contained, map_mem_choicesProduct.mp declared, ?_⟩
    rw [Assignment.zip_map_eq_ofChosen, Assignment.zip_map_eq_ofChosen, Assignment.ofChosen_append]
  · intro given
    rcases given with ⟨chosen, contained, declared, rfl⟩
    refine ⟨(table.pivots.map chosen, (table.missingPivots pivots).map chosen), ?_, ?_⟩
    · exact List.mem_product.mpr ⟨contained, map_mem_choicesProduct.mpr declared⟩
    · rw [Assignment.zip_map_eq_ofChosen, Assignment.zip_map_eq_ofChosen, Assignment.ofChosen_append]

theorem exists_widened_iff {registry : Registry} {table : Combinations} {pivots : List String}
    (covers : ∀ pivot ∈ table.pivots, pivot ∈ pivots) (chosen : String → String) :
    (∃ assignment ∈ table.widened registry pivots,
        ∀ pivot ∈ pivots, assignment.chosen pivot = chosen pivot) ↔
      table.Contains chosen ∧
        ∀ pivot ∈ table.missingPivots pivots, chosen pivot ∈ registry.domain pivot := by
  have inside : ∀ pivot ∈ pivots, pivot ∈ table.pivots ++ table.missingPivots pivots :=
    fun pivot member => (mem_pivots_append_missingPivots covers pivot).mpr member
  constructor
  · intro given
    rcases given with ⟨_, member, agrees⟩
    rcases mem_widened_iff.mp member with ⟨other, contained, declared, rfl⟩
    have same : ∀ pivot ∈ pivots, other pivot = chosen pivot := by
      intro pivot present
      rw [← agrees pivot present, Assignment.chosen_ofChosen (inside pivot present)]
    refine ⟨(table.contains_congr fun pivot own => same pivot (covers pivot own)).mp contained, ?_⟩
    intro pivot added
    rw [← same pivot (mem_missingPivots.mp added).1]
    exact declared pivot added
  · intro given
    rcases given with ⟨contained, declared⟩
    refine ⟨_, mem_widened_iff.mpr ⟨chosen, contained, declared, rfl⟩, ?_⟩
    intro pivot present
    exact Assignment.chosen_ofChosen (inside pivot present) chosen

theorem exists_union_eq_ok {registry : Registry} {left right : Combinations}
    (leftKnown : ∀ pivot ∈ left.pivots, pivot ∉ right.pivots → pivot ∈ registry.names)
    (rightKnown : ∀ pivot ∈ right.pivots, pivot ∉ left.pivots → pivot ∈ registry.names) :
    ∃ table, left.union registry right = .ok table ∧
      table.pivots = ascending (left.pivots ++ right.pivots) ∧
      ∀ chosen : String → String, table.Contains chosen ↔
        (left.Contains chosen ∧ ∀ pivot ∈ left.missingPivots (left.pivots ++ right.pivots),
          chosen pivot ∈ registry.domain pivot) ∨
        (right.Contains chosen ∧ ∀ pivot ∈ right.missingPivots (left.pivots ++ right.pivots),
          chosen pivot ∈ registry.domain pivot) := by
  have leftWide : left.expand registry (left.pivots ++ right.pivots) =
      .ok (left.widened registry (left.pivots ++ right.pivots)) := by
    apply expand_eq_ok
    intro pivot added
    obtain ⟨member, absent⟩ := mem_missingPivots.mp added
    exact rightKnown pivot ((List.mem_append.mp member).resolve_left absent) absent
  have rightWide : right.expand registry (left.pivots ++ right.pivots) =
      .ok (right.widened registry (left.pivots ++ right.pivots)) := by
    apply expand_eq_ok
    intro pivot added
    obtain ⟨member, absent⟩ := mem_missingPivots.mp added
    exact leftKnown pivot ((List.mem_append.mp member).resolve_right absent) absent
  refine ⟨ofAssignments (left.pivots ++ right.pivots)
    (left.widened registry (left.pivots ++ right.pivots) ++
      right.widened registry (left.pivots ++ right.pivots)), ?_, rfl, ?_⟩
  · rw [union, leftWide, rightWide]
    rfl
  · intro chosen
    rw [contains_ofAssignments,
      ← exists_widened_iff (fun pivot own => List.mem_append_left right.pivots own) chosen,
      ← exists_widened_iff (fun pivot own => List.mem_append_right left.pivots own) chosen]
    simp only [List.mem_append, or_and_right, exists_or]

theorem Within.declared_of_missing {registry : Registry} {table : Combinations}
    (within : table.Within registry) {pivots : List String} {chosen : String → String}
    (contained : table.Contains chosen)
    (added : ∀ pivot ∈ table.missingPivots pivots, chosen pivot ∈ registry.domain pivot) :
    ∀ pivot ∈ pivots, chosen pivot ∈ registry.domain pivot := by
  intro pivot member
  by_cases relevant : pivot ∈ table.pivots
  · exact (within_iff.mp within).2 chosen contained pivot relevant
  · exact added pivot (mem_missingPivots.mpr ⟨member, relevant⟩)

end Combinations

end Variants
