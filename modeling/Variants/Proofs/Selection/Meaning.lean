import Variants.Proofs.Ascending
import Variants.Proofs.Registry.Variant
import Variants.Selection.Basic

/-!
The meaning of a selection: the ways of choosing for every pivot that it accepts. A row stands for all
ways of choosing that agree with it on the relevant pivots.
-/

namespace Variants

/-- The entries that a way of choosing gives to pivots. -/
def Assignment.ofChosen (pivots : List String) (chosen : String → String) : Assignment :=
  pivots.map fun pivot => (pivot, chosen pivot)

namespace Assignment

def chosen (assignment : Assignment) (pivot : String) : String :=
  (assignment.lookup pivot).getD ""

theorem row_eq_map_chosen (assignment : Assignment) (pivots : List String) :
    assignment.row pivots = pivots.map assignment.chosen := rfl

theorem lookup_ofChosen (pivots : List String) (chosen : String → String) (pivot : String) :
    (ofChosen pivots chosen).lookup pivot = if pivot ∈ pivots then some (chosen pivot) else none := by
  induction pivots with
  | nil => simp [ofChosen]
  | cons first rest ih =>
      rw [ofChosen, List.map_cons, List.lookup_cons, ← ofChosen, ih]
      by_cases same : pivot = first
      · subst same
        simp
      · have differs : (pivot == first) = false := by simpa using same
        simp [differs, same]

theorem chosen_ofChosen {pivots : List String} {pivot : String} (member : pivot ∈ pivots)
    (chosen : String → String) : Assignment.chosen (ofChosen pivots chosen) pivot = chosen pivot := by
  rw [Assignment.chosen, lookup_ofChosen, if_pos member, Option.getD_some]

theorem zip_map_eq_ofChosen (pivots : List String) (chosen : String → String) :
    pivots.zip (pivots.map chosen) = ofChosen pivots chosen := by
  have diagonal := List.zip_map' (f := fun pivot => pivot) (g := chosen) (l := pivots)
  simpa [ofChosen] using diagonal

theorem ofChosen_append (first second : List String) (chosen : String → String) :
    ofChosen (first ++ second) chosen = ofChosen first chosen ++ ofChosen second chosen :=
  List.map_append

theorem chosen_append_ofChosen (first second : List String) (chosen other : String → String)
    (pivot : String) :
    Assignment.chosen (ofChosen first chosen ++ ofChosen second other) pivot =
      if pivot ∈ first then chosen pivot else if pivot ∈ second then other pivot else "" := by
  rw [Assignment.chosen, List.lookup_append, lookup_ofChosen, lookup_ofChosen]
  by_cases inFirst : pivot ∈ first
  · simp [inFirst]
  · by_cases inSecond : pivot ∈ second <;> simp [inFirst, inSecond]

end Assignment

/-- What a row over `pivots` has for some of them. -/
def Row.restrict (row : Row) (pivots kept : List String) : Row :=
  Assignment.row (pivots.zip row) kept

theorem Row.restrict_map {pivots kept : List String} (inside : ∀ pivot ∈ kept, pivot ∈ pivots)
    (chosen : String → String) : Row.restrict (pivots.map chosen) pivots kept = kept.map chosen := by
  rw [restrict, Assignment.zip_map_eq_ofChosen, Assignment.row_eq_map_chosen]
  apply List.map_congr_left
  intro pivot member
  exact Assignment.chosen_ofChosen (inside pivot member) chosen

theorem exists_map_chosen_eq {pivots : List String} {row : Row} (distinct : pivots.Nodup)
    (width : row.length = pivots.length) : ∃ chosen : String → String, pivots.map chosen = row := by
  induction pivots generalizing row with
  | nil => exact ⟨fun _ => "", (List.eq_nil_of_length_eq_zero width).symm⟩
  | cons pivot rest ih =>
      obtain ⟨choice, others, rfl⟩ := List.exists_cons_of_length_eq_add_one width
      obtain ⟨absent, distinct⟩ := List.nodup_cons.mp distinct
      obtain ⟨chosen, fits⟩ := ih distinct (by simpa using width)
      refine ⟨Function.update chosen pivot choice, ?_⟩
      have unchanged : rest.map (Function.update chosen pivot choice) = rest.map chosen := by
        apply List.map_congr_left
        intro other member
        have differs : other ≠ pivot := fun same => absent (same ▸ member)
        exact Function.update_of_ne differs choice chosen
      rw [List.map_cons, Function.update_self, unchanged, fits]

namespace Combinations

theorem nodup_pivots (table : Combinations) : table.pivots.Nodup :=
  nodup_of_pairwise_lt table.pivots_ascending

theorem nodup_rows (table : Combinations) : table.rows.Nodup :=
  nodup_of_pairwise_lt table.rows_ascending

/-- Whether a way of choosing is among the combinations. -/
def Contains (table : Combinations) (chosen : String → String) : Prop :=
  table.pivots.map chosen ∈ table.rows

instance (table : Combinations) (chosen : String → String) : Decidable (table.Contains chosen) :=
  inferInstanceAs (Decidable (_ ∈ _))

theorem contains_congr (table : Combinations) {chosen other : String → String}
    (agree : ∀ pivot ∈ table.pivots, chosen pivot = other pivot) :
    table.Contains chosen ↔ table.Contains other := by
  rw [Contains, Contains, List.map_congr_left agree]

theorem exists_contains_of_mem {table : Combinations} {row : Row} (member : row ∈ table.rows) :
    ∃ chosen, table.pivots.map chosen = row ∧ table.Contains chosen := by
  obtain ⟨chosen, fits⟩ := exists_map_chosen_eq table.nodup_pivots (table.rows_width row member)
  exact ⟨chosen, fits, by rwa [Contains, fits]⟩

theorem mem_rows_iff {table : Combinations} {property : Row → Prop}
    (means : ∀ chosen, table.Contains chosen ↔ property (table.pivots.map chosen)) {row : Row} :
    row ∈ table.rows ↔ row.length = table.pivots.length ∧ property row := by
  constructor
  · intro member
    obtain ⟨chosen, rfl, contained⟩ := exists_contains_of_mem member
    exact ⟨List.length_map _, (means chosen).mp contained⟩
  · intro given
    rcases given with ⟨width, holds⟩
    obtain ⟨chosen, rfl⟩ := exists_map_chosen_eq table.nodup_pivots width
    exact (means chosen).mpr holds

theorem eq_of_pivots_of_rows {first second : Combinations} (pivots : first.pivots = second.pivots)
    (rows : first.rows = second.rows) : first = second := by
  cases first
  cases second
  simp_all

theorem eq_of_contains_iff {first second : Combinations} (pivots : first.pivots = second.pivots)
    (same : ∀ chosen, first.Contains chosen ↔ second.Contains chosen) : first = second := by
  apply eq_of_pivots_of_rows pivots
  apply eq_of_pairwise_lt first.rows_ascending second.rows_ascending
  intro row
  constructor
  · intro member
    obtain ⟨chosen, rfl, contained⟩ := exists_contains_of_mem member
    simpa [Contains, pivots] using (same chosen).mp contained
  · intro member
    obtain ⟨chosen, rfl, contained⟩ := exists_contains_of_mem member
    simpa [Contains, ← pivots] using (same chosen).mpr contained

theorem mem_assignments_iff {table : Combinations} {assignment : Assignment} :
    assignment ∈ table.assignments ↔
      ∃ chosen, table.Contains chosen ∧ assignment = Assignment.ofChosen table.pivots chosen := by
  rw [assignments, List.mem_map]
  constructor
  · intro given
    rcases given with ⟨row, member, rfl⟩
    obtain ⟨chosen, rfl, contained⟩ := exists_contains_of_mem member
    exact ⟨chosen, contained, Assignment.zip_map_eq_ofChosen _ _⟩
  · intro given
    rcases given with ⟨chosen, contained, rfl⟩
    exact ⟨_, contained, Assignment.zip_map_eq_ofChosen _ _⟩

theorem contains_ofRows {pivots : List String} {rows : List Row}
    {sorted : pivots.Pairwise (· < ·)} {width : ∀ row ∈ rows, row.length = pivots.length}
    {chosen : String → String} :
    (ofRows pivots rows sorted width).Contains chosen ↔ pivots.map chosen ∈ rows :=
  mem_ascending

theorem contains_ofAssignments {pivots : List String} {assignments : List Assignment}
    {chosen : String → String} :
    (ofAssignments pivots assignments).Contains chosen ↔
      ∃ assignment ∈ assignments, ∀ pivot ∈ pivots, assignment.chosen pivot = chosen pivot := by
  refine contains_ofRows.trans ?_
  simp only [List.mem_map, Assignment.row_eq_map_chosen, List.map_inj_left, mem_ascending]

theorem contains_ofChoices {pivot : String} {choices : List String} {chosen : String → String} :
    (ofChoices pivot choices).Contains chosen ↔ chosen pivot ∈ choices := by
  rw [ofChoices, contains_ofRows, List.mem_map]
  simp

/-- Every pivot is known, and every combination has declared choices only. -/
structure Within (registry : Registry) (table : Combinations) : Prop where
  known : ∀ pivot ∈ table.pivots, pivot ∈ registry.names
  declared : ∀ row ∈ table.rows, ∀ entry ∈ table.pivots.zip row, registry.Declares entry.1 entry.2

theorem within_iff {registry : Registry} {table : Combinations} :
    table.Within registry ↔ (∀ pivot ∈ table.pivots, pivot ∈ registry.names) ∧
      ∀ chosen, table.Contains chosen → ∀ pivot ∈ table.pivots, chosen pivot ∈ registry.domain pivot := by
  constructor
  · intro within
    refine ⟨within.known, ?_⟩
    intro chosen contained pivot member
    apply Registry.mem_domain.mpr
    apply within.declared _ contained (pivot, chosen pivot)
    rw [Assignment.zip_map_eq_ofChosen]
    exact List.mem_map_of_mem member
  · intro given
    rcases given with ⟨known, declared⟩
    refine ⟨known, ?_⟩
    intro row present entry member
    obtain ⟨chosen, rfl, contained⟩ := exists_contains_of_mem present
    rw [Assignment.zip_map_eq_ofChosen] at member
    obtain ⟨pivot, relevant, rfl⟩ := List.mem_map.mp member
    exact Registry.mem_domain.mp (declared chosen contained pivot relevant)

theorem Within.exists_variant {registry : Registry} {table : Combinations}
    (within : table.Within registry) {chosen : String → String} (contained : table.Contains chosen) :
    ∃ variant : registry.Variant, ∀ pivot ∈ table.pivots, variant.chosen pivot = chosen pivot :=
  Registry.Variant.exists_extension _ _ ((within_iff.mp within).2 chosen contained)

end Combinations

namespace Selection

def Accepts (selection : Selection) (chosen : String → String) : Prop :=
  match selection with
  | constant holds => holds = true
  | combinations table => table.Contains chosen

instance (selection : Selection) (chosen : String → String) : Decidable (selection.Accepts chosen) :=
  match selection with
  | constant holds => inferInstanceAs (Decidable (holds = true))
  | combinations table => inferInstanceAs (Decidable (table.Contains chosen))

@[simp]
theorem accepts_constant {holds : Bool} {chosen : String → String} :
    (constant holds).Accepts chosen ↔ holds = true := Iff.rfl

@[simp]
theorem accepts_combinations {table : Combinations} {chosen : String → String} :
    (combinations table).Accepts chosen ↔ table.Contains chosen := Iff.rfl

theorem choicesOf_eq_ok {choice? : String → Option String} {chosen : String → String}
    {pivots : List String} (covered : ∀ pivot ∈ pivots, choice? pivot = some (chosen pivot)) :
    choicesOf choice? pivots = .ok (pivots.map chosen) := by
  induction pivots with
  | nil => rfl
  | cons pivot rest ih =>
      rw [choicesOf, covered pivot List.mem_cons_self,
        ih fun other member => covered other (List.mem_cons_of_mem pivot member)]
      rfl

theorem admits_eq_ok {registry : Registry} {selection : Selection}
    (known : ∀ pivot ∈ selection.relevant, pivot ∈ registry.names) (variant : registry.Variant) :
    selection.admits variant.choice? = .ok (decide (selection.Accepts variant.chosen)) := by
  cases selection with
  | constant holds => simp [admits]
  | combinations table =>
      have covered : choicesOf variant.choice? table.pivots = .ok (table.pivots.map variant.chosen) :=
        choicesOf_eq_ok fun pivot member => variant.choice?_eq (known pivot member)
      rw [admits, covered]
      simp [Except.map, Combinations.Contains]

end Selection

end Variants
