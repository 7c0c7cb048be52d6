import Variants.Example
import Variants.Proofs.Condition.Meaning
import Variants.Proofs.Selection.Dropping

/-!
Which pivot goes. A pivot matters if some row leaves the combinations when its choice of that pivot is
replaced. Counting drops the first pivot that does not matter. The count is given up as soon as it is too
high, but whether that happens depends on the set of rows alone and not on the order of a visit.
-/

namespace Variants

theorem findSome?_congr {α β : Type} {f g : α → Option β} {items : List α}
    (same : ∀ item ∈ items, f item = g item) : items.findSome? f = items.findSome? g := by
  rw [← List.head?_filterMap, List.filterMap_congr same, List.head?_filterMap]

theorem findSome?_zipIdx_eq_some_iff {α β : Type} {f : α × Nat → Option β} {items : List α} {b : β} :
    items.zipIdx.findSome? f = some b ↔
      ∃ index, ∃ inside : index < items.length, f (items[index], index) = some b ∧
        ∀ earlier, ∀ before : earlier < index, f (items[earlier], earlier) = none := by
  rw [List.findSome?_eq_some_iff]
  constructor
  · intro given
    rcases given with ⟨passed, ⟨item, index⟩, rest, split, found, missed⟩
    obtain ⟨front, back, rfl, rfl, rear⟩ := List.zipIdx_eq_append_iff.mp split
    obtain ⟨first, others, rfl, here, _⟩ := List.zipIdx_eq_cons_iff.mp rear.symm
    obtain ⟨rfl, rfl⟩ := Prod.mk.inj here
    refine ⟨0 + front.length, by simp, by simpa using found, ?_⟩
    intro earlier before
    have inFront : earlier < front.length := by omega
    apply missed
    rw [List.mk_mem_zipIdx_iff_getElem?, List.getElem_append_left inFront]
    exact List.getElem?_eq_getElem inFront
  · intro given
    rcases given with ⟨index, inside, found, missed⟩
    refine ⟨(items.take index).zipIdx, (items[index], index),
      (items.drop (index + 1)).zipIdx (index + 1), ?_, found, ?_⟩
    · rw [← List.zipIdx_cons, List.getElem_cons_drop]
      refine List.zipIdx_eq_append_iff.mpr ⟨_, _, (List.take_append_drop index items).symm, rfl, ?_⟩
      rw [List.length_take_of_le (Nat.le_of_lt inside), Nat.zero_add]
    · intro entry member
      rcases entry with ⟨item, earlier⟩
      obtain ⟨bound, rfl⟩ := List.getElem?_eq_some_iff.mp (List.mk_mem_zipIdx_iff_getElem?.mp member)
      rw [List.length_take] at bound
      rw [List.getElem_take]
      exact missed earlier (by omega)

theorem reduceAt?_eq_of_perm {visited rows : List Row} (perm : visited.Perm rows) (index size : Nat) :
    reduceAt? visited index size = reduceAt? rows index size := by
  have left : ascending (visited.map (·.eraseIdx index)) = ascending (rows.map (·.eraseIdx index)) :=
    ascending_congr fun _ => (perm.map _).mem_iff
  apply Option.ext
  intro reduced
  rw [reduceAt?_eq_some_iff, reduceAt?_eq_some_iff, perm.length_eq, left]

namespace Combinations

variable {registry : Registry} {table smaller : Combinations} {index : Nat}

/-- Some row is lost when its choice at `index` is replaced by another declared one. -/
def MattersAt (registry : Registry) (table : Combinations) (index : Nat) : Prop :=
  ∃ pivot ∈ table.pivots[index]?, ∃ row ∈ table.rows, ∃ choice ∈ registry.domain pivot,
    choice ∉ row[index]? ∧ row.set index choice ∉ table.rows

instance (registry : Registry) (table : Combinations) (index : Nat) :
    Decidable (table.MattersAt registry index) :=
  inferInstanceAs (Decidable (∃ pivot ∈ _, _))

theorem mattersAt_iff_not_ignores (inside : index < table.pivots.length) :
    table.MattersAt registry index ↔ ¬ table.Ignores registry table.pivots[index] := by
  rw [← freeAt_iff_ignores inside]
  constructor
  · intro matters free
    rcases matters with ⟨pivot, position, row, present, choice, declared, _, lost⟩
    obtain ⟨_, rfl⟩ := List.getElem?_eq_some_iff.mp position
    exact lost (free row present choice declared)
  · intro bound
    simp only [FreeAt, not_forall] at bound
    rcases bound with ⟨row, present, choice, declared, lost⟩
    refine ⟨_, List.getElem?_eq_getElem inside, row, present, choice, declared, ?_, lost⟩
    -- A row that is lost was given another choice than its own.
    intro own
    obtain ⟨within, rfl⟩ := List.getElem?_eq_some_iff.mp own
    rw [List.set_getElem_self] at lost
    exact lost present

theorem dropAt?_eq_some_iff_not_mattersAt (within : table.Within registry)
    (inside : index < table.pivots.length) :
    table.dropAt? index (registry.domain table.pivots[index]).length = some smaller ↔
      ¬ table.MattersAt registry index ∧ smaller = table.eraseAt index := by
  rw [dropAt?_eq_some_iff within inside, mattersAt_iff_not_ignores inside, not_not]

theorem dropAt?_eq_none_iff_mattersAt (within : table.Within registry)
    (inside : index < table.pivots.length) :
    table.dropAt? index (registry.domain table.pivots[index]).length = none ↔
      table.MattersAt registry index := by
  simp [Option.eq_none_iff_forall_ne_some, dropAt?_eq_some_iff_not_mattersAt within inside]

theorem dropOne?_eq_none_iff (within : table.Within registry) :
    table.dropOne? (table.domainSizes registry) = none ↔
      ∀ index < table.pivots.length, table.MattersAt registry index := by
  constructor
  · intro stays index inside
    apply (mattersAt_iff_not_ignores inside).mpr
    exact not_ignores_of_dropOne?_eq_none within stays _ (List.getElem_mem inside)
  · intro matters
    rw [Option.eq_none_iff_forall_ne_some]
    intro smaller dropped
    obtain ⟨index, inside, evenly, _⟩ := exists_of_dropOne?_eq_some dropped
    have ignores := (evenly_iff_ignores within inside).mp evenly
    exact (mattersAt_iff_not_ignores inside).mp (matters index inside) ignores

theorem dropOne?_eq_some_iff (within : table.Within registry) :
    table.dropOne? (table.domainSizes registry) = some smaller ↔
      ∃ index < table.pivots.length, ¬ table.MattersAt registry index ∧
        (∀ earlier < index, table.MattersAt registry earlier) ∧ smaller = table.eraseAt index := by
  rw [dropOne?, findSome?_zipIdx_eq_some_iff]
  simp only [domainSizes, List.getElem_map, List.length_map]
  constructor
  · intro given
    rcases given with ⟨index, inside, found, missed⟩
    obtain ⟨needless, erased⟩ := (dropAt?_eq_some_iff_not_mattersAt within inside).mp found
    refine ⟨index, inside, needless, ?_, erased⟩
    intro earlier before
    exact (dropAt?_eq_none_iff_mattersAt within (Nat.lt_trans before inside)).mp (missed earlier before)
  · intro given
    rcases given with ⟨index, inside, needless, matters, erased⟩
    refine ⟨index, inside, (dropAt?_eq_some_iff_not_mattersAt within inside).mpr ⟨needless, erased⟩, ?_⟩
    intro earlier before
    exact (dropAt?_eq_none_iff_mattersAt within (Nat.lt_trans before inside)).mpr (matters earlier before)

theorem eq_eraseAt_iff :
    smaller = table.eraseAt index ↔
      smaller.pivots = table.pivots.eraseIdx index ∧
        ∀ row, row ∈ smaller.rows ↔ ∃ whole ∈ table.rows, whole.eraseIdx index = row := by
  have erased (row : Row) :
      row ∈ (table.eraseAt index).rows ↔ ∃ whole ∈ table.rows, whole.eraseIdx index = row := by
    rw [eraseAt, ofRows, mem_ascending, List.mem_map]
  constructor
  · intro same
    subst same
    exact ⟨rfl, erased⟩
  · intro given
    rcases given with ⟨pivots, rows⟩
    apply eq_of_pivots_of_rows pivots
    apply eq_of_pairwise_lt smaller.rows_ascending (table.eraseAt index).rows_ascending
    intro row
    rw [rows, erased]

/-- The pivots and rows without the first pivot that the count drops, where the rows are visited in the
given order. -/
def dropOneVisiting? (visited : List Row) (table : Combinations) (sizes : List Nat) :
    Option (List String × List Row) :=
  sizes.zipIdx.findSome? fun (size, index) =>
    (reduceAt? visited index size).map fun reduced => (table.pivots.eraseIdx index, reduced)

theorem dropOneVisiting?_eq {visited : List Row} (perm : visited.Perm table.rows) :
    table.dropOneVisiting? visited (table.domainSizes registry) =
      (table.dropOne? (table.domainSizes registry)).map fun smaller =>
        (smaller.pivots, smaller.rows) := by
  rw [dropOneVisiting?, dropOne?, List.map_findSome?]
  apply findSome?_congr
  intro entry member
  rcases entry with ⟨size, index⟩
  obtain ⟨inside, rfl⟩ := mem_zipIdx_domainSizes_iff.mp member
  simp only [reduceAt?_eq_of_perm perm, reduceAt?_eq_map_dropAt? inside, Function.comp_apply]
  cases dropped : table.dropAt? index (registry.domain table.pivots[index]).length with
  | none => rfl
  | some smaller =>
      obtain ⟨_, _, rfl⟩ := dropAt?_eq_some_iff_evenly.mp dropped
      rfl

/-- With the numbers of declared choices, counting drops no pivot iff every pivot matters, and otherwise the
first one that does not, whatever the order in which the rows are visited. -/
theorem dropOne?_exact_in_any_order (registry : Registry) (table : Combinations)
    (within : table.Within registry) :
    ∃ sizes, table.sizes registry = .ok sizes ∧
      (table.dropOne? sizes = none ↔
        ∀ index < table.pivots.length, table.MattersAt registry index) ∧
      (∀ smaller, table.dropOne? sizes = some smaller ↔
        ∃ index < table.pivots.length, ¬ table.MattersAt registry index ∧
          (∀ earlier < index, table.MattersAt registry earlier) ∧
          smaller.pivots = table.pivots.eraseIdx index ∧
          ∀ row, row ∈ smaller.rows ↔ ∃ whole ∈ table.rows, whole.eraseIdx index = row) ∧
      ∀ visited, visited.Perm table.rows →
        table.dropOneVisiting? visited sizes =
          (table.dropOne? sizes).map fun smaller => (smaller.pivots, smaller.rows) := by
  refine ⟨table.domainSizes registry, sizes_eq_ok within.known, dropOne?_eq_none_iff within, ?_,
    fun visited => dropOneVisiting?_eq⟩
  intro smaller
  simp only [← eq_eraseAt_iff]
  exact dropOne?_eq_some_iff within

theorem dropOne?_exact_in_any_order_of_example :
    let table : Combinations := ⟨["Configuration", "Linkage", "Platform"],
      [["Debug", "dynamic", "x64"], ["Debug", "ltcg", "x64"], ["Debug", "static", "x64"],
        ["Debug", "sxs", "x64"]], by decide, by decide, by decide⟩
    let visited := [["Debug", "sxs", "x64"], ["Debug", "dynamic", "x64"], ["Debug", "static", "x64"],
      ["Debug", "ltcg", "x64"]]
    table.Within Example.registry ∧ visited.Perm table.rows ∧ table.MattersAt Example.registry 0 ∧
      ¬ table.MattersAt Example.registry 1 ∧ table.sizes Example.registry = .ok [2, 4, 3] ∧
      ∃ smaller, table.dropOne? [2, 4, 3] = some smaller ∧
        smaller.pivots = ["Configuration", "Platform"] ∧
        (∀ row, row ∈ smaller.rows ↔ ∃ whole ∈ table.rows, whole.eraseIdx 1 = row) ∧
        table.dropOneVisiting? visited [2, 4, 3] = some (smaller.pivots, smaller.rows) := by
  intro table visited
  have within : table.Within Example.registry := ⟨by decide, by decide⟩
  have perm : visited.Perm table.rows := by decide
  have first : table.MattersAt Example.registry 0 := by decide
  have second : ¬ table.MattersAt Example.registry 1 := by decide
  have sized : table.sizes Example.registry = .ok [2, 4, 3] := by decide
  rcases dropOne?_exact_in_any_order Example.registry table within with ⟨sizes, counted, _, drops, anyOrder⟩
  obtain rfl : [2, 4, 3] = sizes := Except.ok.inj (sized.symm.trans counted)
  rcases eq_eraseAt_iff.mp (Eq.refl (table.eraseAt 1)) with ⟨pivots, rows⟩
  have dropped : table.dropOne? [2, 4, 3] = some (table.eraseAt 1) := by
    apply (drops _).mpr
    refine ⟨1, by decide, second, ?_, pivots, rows⟩
    intro earlier before
    rwa [Nat.lt_one_iff.mp before]
  refine ⟨within, perm, first, second, sized, table.eraseAt 1, dropped, pivots, rows, ?_⟩
  rw [anyOrder visited perm, dropped]
  rfl

end Combinations

end Variants
