import Variants.Proofs.Selection.Counting
import Variants.Proofs.Selection.Join

/-!
Dropping pivots. Counting finds exactly the pivots without influence, and a table says the same of every
variant when one of them is gone.
-/

namespace Variants

namespace Combinations

/-- A pivot without influence: any declared choice of it is as good as any other. -/
def Ignores (registry : Registry) (table : Combinations) (pivot : String) : Prop :=
  ∀ chosen choice, table.Contains chosen → choice ∈ registry.domain pivot →
    table.Contains (Function.update chosen pivot choice)

theorem map_update_eq_set {pivots : List String} (distinct : pivots.Nodup) {index : Nat}
    (inside : index < pivots.length) (chosen : String → String) (choice : String) :
    pivots.map (Function.update chosen pivots[index] choice) =
      (pivots.map chosen).set index choice := by
  apply List.ext_getElem
  · simp
  · intro other bound _
    rw [List.length_map] at bound
    rw [List.getElem_map, List.getElem_set, List.getElem_map]
    by_cases same : index = other
    · subst same
      rw [if_pos rfl, Function.update_self]
    · have differs : pivots[other] ≠ pivots[index] := fun equal =>
        same (distinct.getElem_inj_iff.mp equal).symm
      rw [if_neg same, Function.update_of_ne differs]

theorem freeAt_iff_ignores {registry : Registry} {table : Combinations} {index : Nat}
    (inside : index < table.pivots.length) :
    FreeAt table.rows (registry.domain table.pivots[index]) index ↔
      table.Ignores registry table.pivots[index] := by
  constructor
  · intro free chosen choice contained declared
    rw [Contains, map_update_eq_set table.nodup_pivots inside]
    exact free _ contained choice declared
  · intro ignores row present choice declared
    obtain ⟨chosen, rfl, contained⟩ := exists_contains_of_mem present
    rw [← map_update_eq_set table.nodup_pivots inside]
    exact ignores chosen choice contained declared

/-- The rows without their entry at `index` are as many as if each stood for `size` of them. -/
def Evenly (table : Combinations) (index size : Nat) : Prop :=
  table.rows.length % size = 0 ∧
    (ascending (table.rows.map (·.eraseIdx index))).length = table.rows.length / size

/-- With declared choices only, no row without its entry can stand for more rows than the pivot has
choices, so the count tells whether the pivot has influence. -/
theorem evenly_iff_ignores {registry : Registry} {table : Combinations}
    (within : table.Within registry) {index : Nat} (inside : index < table.pivots.length) :
    table.Evenly index (registry.domain table.pivots[index]).length ↔
      table.Ignores registry table.pivots[index] := by
  obtain ⟨known, declared⟩ := within_iff.mp within
  have positive := Registry.domain_length_pos (known _ (List.getElem_mem inside))
  have counting := length_eq_mul_iff_freeAt table.nodup_rows
    (registry.nodup_domain table.pivots[index])
    (fun row present => by rwa [table.rows_width row present])
    (fun row present => by
      obtain ⟨chosen, rfl, contained⟩ := exists_contains_of_mem present
      simpa [inside] using declared chosen contained _ (List.getElem_mem inside))
  rw [Evenly, ← freeAt_iff_ignores inside, ← counting]
  constructor
  · intro given
    rcases given with ⟨divides, counted⟩
    rw [counted]
    exact (Nat.div_mul_cancel (Nat.dvd_of_mod_eq_zero divides)).symm
  · intro counted
    rw [counted]
    exact ⟨Nat.mul_mod_left _ _, (Nat.mul_div_cancel _ positive).symm⟩

theorem pairwise_eraseIdx_pivots (table : Combinations) (index : Nat) :
    (table.pivots.eraseIdx index).Pairwise (· < ·) :=
  table.pivots_ascending.sublist (List.eraseIdx_sublist _ _)

theorem length_of_mem_map_eraseIdx (table : Combinations) (index : Nat) :
    ∀ row ∈ table.rows.map (·.eraseIdx index), row.length = (table.pivots.eraseIdx index).length := by
  intro row member
  rcases List.mem_map.mp member with ⟨whole, present, rfl⟩
  rw [List.length_eraseIdx, List.length_eraseIdx, table.rows_width whole present]

def eraseAt (table : Combinations) (index : Nat) : Combinations :=
  ofRows (table.pivots.eraseIdx index) (table.rows.map (·.eraseIdx index))
    (table.pairwise_eraseIdx_pivots index) (table.length_of_mem_map_eraseIdx index)

theorem dropAt?_eq_some_iff_evenly {table smaller : Combinations} {index size : Nat} :
    table.dropAt? index size = some smaller ↔
      index < table.pivots.length ∧ table.Evenly index size ∧ smaller = table.eraseAt index := by
  rw [dropAt?, Evenly]
  split
  · rename_i inside
    rw [and_iff_right inside]
    split
    · rename_i fails
      simp only [reduceCtorEq, false_iff]
      intro given
      rcases given with ⟨⟨divides, counted⟩, _⟩
      rw [reduceAt?_eq_some_iff.mpr ⟨divides, counted, rfl⟩] at fails
      contradiction
    · rename_i reduced reduces
      obtain ⟨divides, counted, rfl⟩ := reduceAt?_eq_some_iff.mp reduces
      have erased sorted width : ofRows (table.pivots.eraseIdx index)
          (ascending (table.rows.map (·.eraseIdx index))) sorted width = table.eraseAt index :=
        eq_of_pivots_of_rows rfl (ascending_of_pairwise_lt (pairwise_ascending _))
      rw [Option.some.injEq, erased]
      exact ⟨fun same => ⟨⟨divides, counted⟩, same.symm⟩, fun same => same.2.symm⟩
  · rename_i outside
    simp [outside]

theorem reduceAt?_eq_map_dropAt? {table : Combinations} {index : Nat} (inside : index < table.pivots.length)
    (size : Nat) : reduceAt? table.rows index size = (table.dropAt? index size).map (·.rows) := by
  apply Option.ext
  intro reduced
  simp only [Option.map_eq_some_iff, dropAt?_eq_some_iff_evenly, reduceAt?_eq_some_iff]
  constructor
  · intro given
    rcases given with ⟨divides, counted, rfl⟩
    exact ⟨_, ⟨inside, ⟨divides, counted⟩, rfl⟩, rfl⟩
  · intro given
    rcases given with ⟨_, ⟨_, ⟨divides, counted⟩, rfl⟩, rfl⟩
    exact ⟨divides, counted, rfl⟩

theorem dropAt?_eq_some_iff {registry : Registry} {table smaller : Combinations}
    (within : table.Within registry) {index : Nat} (inside : index < table.pivots.length) :
    table.dropAt? index (registry.domain table.pivots[index]).length = some smaller ↔
      table.Ignores registry table.pivots[index] ∧ smaller = table.eraseAt index := by
  rw [dropAt?_eq_some_iff_evenly, and_iff_right inside, evenly_iff_ignores within inside]

theorem contains_eraseAt {table : Combinations} {index : Nat} (inside : index < table.pivots.length)
    {chosen : String → String} :
    (table.eraseAt index).Contains chosen ↔
      ∃ choice, table.Contains (Function.update chosen table.pivots[index] choice) := by
  refine contains_ofRows.trans ?_
  rw [List.mem_map, ← List.eraseIdx_map]
  constructor
  · intro given
    rcases given with ⟨row, present, same⟩
    have width : index < row.length := by rwa [table.rows_width row present]
    have inMap : index < (table.pivots.map chosen).length := by simpa using inside
    have restored : (table.pivots.map chosen).set index (row[index]?.getD "") = row := by
      apply eq_of_parts_eq (by simpa using inMap) width
      rw [parts_set inMap, ← same, parts]
    refine ⟨row[index]?.getD "", ?_⟩
    rwa [Contains, map_update_eq_set table.nodup_pivots inside, restored]
  · intro given
    rcases given with ⟨choice, contained⟩
    rw [Contains, map_update_eq_set table.nodup_pivots inside] at contained
    exact ⟨_, contained, List.eraseIdx_set_eq⟩

theorem mem_pivots_eraseAt {table : Combinations} {index : Nat} (inside : index < table.pivots.length)
    {pivot : String} :
    pivot ∈ (table.eraseAt index).pivots ↔ pivot ∈ table.pivots ∧ pivot ≠ table.pivots[index] := by
  rw [eraseAt, ofRows, List.mem_eraseIdx_iff_getElem]
  constructor
  · intro given
    rcases given with ⟨other, bound, differs, rfl⟩
    exact ⟨List.getElem_mem bound, fun same => differs (table.nodup_pivots.getElem_inj_iff.mp same)⟩
  · intro given
    rcases given with ⟨member, differs⟩
    obtain ⟨other, bound, rfl⟩ := List.getElem_of_mem member
    exact ⟨other, bound, fun same => differs (by simp [same]), rfl⟩

theorem Within.eraseAt {registry : Registry} {table : Combinations} (within : table.Within registry)
    {index : Nat} (inside : index < table.pivots.length) :
    (table.eraseAt index).Within registry := by
  obtain ⟨known, declared⟩ := within_iff.mp within
  apply within_iff.mpr
  constructor
  · intro pivot member
    exact known pivot ((mem_pivots_eraseAt inside).mp member).1
  · intro chosen contained pivot member
    obtain ⟨choice, completed⟩ := (contains_eraseAt inside).mp contained
    obtain ⟨relevant, differs⟩ := (mem_pivots_eraseAt inside).mp member
    have entry := declared _ completed pivot relevant
    rwa [Function.update_of_ne differs] at entry

theorem contains_eraseAt_of_ignores {registry : Registry} {table : Combinations} {index : Nat}
    (inside : index < table.pivots.length) (ignores : table.Ignores registry table.pivots[index])
    {chosen : String → String}
    (declared : chosen table.pivots[index] ∈ registry.domain table.pivots[index]) :
    (table.eraseAt index).Contains chosen ↔ table.Contains chosen := by
  rw [contains_eraseAt inside]
  constructor
  · intro given
    rcases given with ⟨choice, contained⟩
    have back := ignores _ _ contained declared
    rwa [Function.update_idem, Function.update_eq_self] at back
  · intro contained
    exact ⟨chosen table.pivots[index], by rwa [Function.update_eq_self]⟩

def domainSizes (registry : Registry) (table : Combinations) : List Nat :=
  table.pivots.map fun pivot => (registry.domain pivot).length

theorem sizes_eq_ok {registry : Registry} {table : Combinations}
    (known : ∀ pivot ∈ table.pivots, pivot ∈ registry.names) :
    table.sizes registry = .ok (table.domainSizes registry) := by
  rw [sizes, domainSizes]
  apply Outcome.mapM_eq_ok_map
  intro pivot member
  rw [Registry.choices_eq_ok (known pivot member)]
  rfl

theorem mem_zipIdx_domainSizes_iff {registry : Registry} {table : Combinations} {size index : Nat} :
    (size, index) ∈ (table.domainSizes registry).zipIdx ↔
      ∃ inside : index < table.pivots.length, size = (registry.domain table.pivots[index]).length := by
  rw [List.mk_mem_zipIdx_iff_getElem?, domainSizes, List.getElem?_map, Option.map_eq_some_iff]
  constructor
  · intro given
    rcases given with ⟨pivot, position, rfl⟩
    obtain ⟨inside, rfl⟩ := List.getElem?_eq_some_iff.mp position
    exact ⟨inside, rfl⟩
  · intro given
    rcases given with ⟨inside, rfl⟩
    exact ⟨_, List.getElem?_eq_getElem inside, rfl⟩

theorem nodup_choicesProduct {domains : List (List String)}
    (distinct : ∀ choices ∈ domains, choices.Nodup) : (choicesProduct domains).Nodup := by
  induction domains with
  | nil => simp [choicesProduct]
  | cons choices rest ih =>
      have others := ih fun domain member => distinct domain (List.mem_cons_of_mem choices member)
      rw [choicesProduct, List.nodup_flatMap]
      refine ⟨fun choice _ => others.map fun _ _ same => List.tail_eq_of_cons_eq same, ?_⟩
      apply (distinct choices List.mem_cons_self).imp
      intro first second differ
      apply List.disjoint_left.mpr
      intro row inFirst inSecond
      obtain ⟨_, _, rfl⟩ := List.mem_map.mp inFirst
      obtain ⟨_, _, same⟩ := List.mem_map.mp inSecond
      exact differ (List.head_eq_of_cons_eq same).symm

theorem nodup_choicesProduct_domains (registry : Registry) (pivots : List String) :
    (choicesProduct (pivots.map registry.domain)).Nodup := by
  apply nodup_choicesProduct
  intro choices member
  obtain ⟨pivot, _, rfl⟩ := List.mem_map.mp member
  exact registry.nodup_domain pivot

theorem length_choicesProduct (domains : List (List String)) :
    (choicesProduct domains).length = (domains.map List.length).foldr (· * ·) 1 := by
  induction domains with
  | nil => rfl
  | cons choices rest ih => simp [choicesProduct, List.length_flatMap, ih]

theorem length_rows_eq_iff {registry : Registry} {table : Combinations}
    (within : table.Within registry) :
    table.rows.length = (table.domainSizes registry).foldr (· * ·) 1 ↔
      ∀ chosen : String → String,
        (∀ pivot ∈ table.pivots, chosen pivot ∈ registry.domain pivot) → table.Contains chosen := by
  have product := length_choicesProduct (table.pivots.map registry.domain)
  rw [List.map_map] at product
  have inside : table.rows ⊆ choicesProduct (table.pivots.map registry.domain) := by
    intro row present
    obtain ⟨chosen, rfl, contained⟩ := exists_contains_of_mem present
    exact map_mem_choicesProduct.mpr ((within_iff.mp within).2 chosen contained)
  have distinct := nodup_choicesProduct_domains registry table.pivots
  constructor
  · intro counted chosen declared
    exact subset_of_length_le table.nodup_rows inside (Nat.le_of_eq (product.trans counted.symm))
      (map_mem_choicesProduct.mpr declared)
  · intro full
    refine Eq.trans (Nat.le_antisymm (table.nodup_rows.length_le_of_subset inside) ?_) product
    apply distinct.length_le_of_subset
    intro row member
    have width := length_of_mem_choicesProduct member
    rw [List.length_map] at width
    obtain ⟨chosen, rfl⟩ := exists_map_chosen_eq table.nodup_pivots width
    exact full chosen (map_mem_choicesProduct.mp member)

theorem exists_of_dropOne?_eq_some {registry : Registry} {table smaller : Combinations}
    (dropped : table.dropOne? (table.domainSizes registry) = some smaller) :
    ∃ index, ∃ inside : index < table.pivots.length,
      table.Evenly index (registry.domain table.pivots[index]).length ∧ smaller = table.eraseAt index := by
  obtain ⟨⟨size, index⟩, member, found⟩ := List.exists_of_findSome?_eq_some dropped
  obtain ⟨inside, rfl⟩ := mem_zipIdx_domainSizes_iff.mp member
  exact ⟨index, inside, (dropAt?_eq_some_iff_evenly.mp found).2⟩

theorem not_ignores_of_dropOne?_eq_none {registry : Registry} {table : Combinations}
    (within : table.Within registry) (stays : table.dropOne? (table.domainSizes registry) = none) :
    ∀ pivot ∈ table.pivots, ¬ table.Ignores registry pivot := by
  intro pivot member ignores
  obtain ⟨index, inside, rfl⟩ := List.getElem_of_mem member
  have fails : table.dropAt? index (registry.domain table.pivots[index]).length = none :=
    List.findSome?_eq_none_iff.mp stays _ (mem_zipIdx_domainSizes_iff.mpr ⟨inside, rfl⟩)
  rw [(dropAt?_eq_some_iff within inside).mpr ⟨ignores, rfl⟩] at fails
  contradiction

end Combinations

end Variants
