import Variants.Proofs.Selection.Dropping

/-!
Minimal selections. Making a selection minimal keeps its meaning and leaves no pivot that could go.
Two minimal selections with the same meaning are the same, so the order in which pivots go does not
matter.
-/

namespace Variants

open Registry (Variant)

variable {registry : Registry}

namespace Combinations

/-- A table that is neither empty nor over no pivots, and in which every pivot has influence. -/
structure Reduced (registry : Registry) (table : Combinations) : Prop where
  within : table.Within registry
  inhabited : table.rows ≠ []
  proper : table.pivots ≠ []
  matters : ∀ pivot ∈ table.pivots, ¬ table.Ignores registry pivot

theorem not_contains_of_rows_nil {table : Combinations} (empty : table.rows = [])
    (chosen : String → String) : ¬ table.Contains chosen := by
  rw [Contains, empty]
  exact List.not_mem_nil

theorem contains_of_pivots_nil {table : Combinations} (none : table.pivots = [])
    (inhabited : table.rows ≠ []) (chosen : String → String) : table.Contains chosen := by
  obtain ⟨row, present⟩ := List.exists_mem_of_ne_nil _ inhabited
  have width := table.rows_width row present
  rw [none, List.length_nil] at width
  rw [Contains, none, List.map_nil, ← List.eq_nil_of_length_eq_zero width]
  exact present

end Combinations

namespace Selection

/-- A constant, or a table that cannot be made smaller. -/
def Reduced (registry : Registry) : Selection → Prop
  | constant _ => True
  | combinations table => table.Reduced registry

/-- The result is the minimal selection of the variants with a property. -/
def Computes (registry : Registry) (result : Except Error Selection)
    (property : registry.Variant → Prop) : Prop :=
  ∃ selection, result = .ok selection ∧ selection.Reduced registry ∧
    ∀ variant : registry.Variant, selection.Accepts variant.chosen ↔ property variant

theorem Computes.congr {result : Except Error Selection} {property other : registry.Variant → Prop}
    (computes : Computes registry result property)
    (same : ∀ variant, property variant ↔ other variant) : Computes registry result other := by
  rcases computes with ⟨selection, gives, reduced, means⟩
  exact ⟨selection, gives, reduced, fun variant => (means variant).trans (same variant)⟩

end Selection

namespace Combinations

theorem simplify_computes {table : Combinations} (within : table.Within registry) :
    Selection.Computes registry (table.simplify registry) fun variant =>
      table.Contains variant.chosen := by
  fun_induction simplify registry table with
  | case1 table empty =>
      refine ⟨_, rfl, trivial, ?_⟩
      intro variant
      have none := not_contains_of_rows_nil (List.isEmpty_iff.mp empty) variant.chosen
      simp [none]
  | case2 table _ cause fails =>
      rw [sizes_eq_ok within.known] at fails
      contradiction
  | case3 table _ sizes counts full =>
      rw [sizes_eq_ok within.known, Except.ok.injEq] at counts
      subst counts
      refine ⟨_, rfl, trivial, ?_⟩
      intro variant
      have all := (length_rows_eq_iff within).mp full variant.chosen
        fun pivot member => variant.chosen_mem_domain (within.known pivot member)
      simp [all]
  | case4 table inhabited sizes counts notFull stays =>
      rw [sizes_eq_ok within.known, Except.ok.injEq] at counts
      subst counts
      have rows : table.rows ≠ [] := fun empty => inhabited (List.isEmpty_iff.mpr empty)
      refine ⟨_, rfl, ⟨within, rows, ?_, not_ignores_of_dropOne?_eq_none within stays⟩,
        fun variant => Iff.rfl⟩
      intro none
      apply notFull
      exact (length_rows_eq_iff within).mpr fun chosen _ => contains_of_pivots_nil none rows chosen
  | case5 table _ sizes counts _ smaller dropped ih =>
      rw [sizes_eq_ok within.known, Except.ok.injEq] at counts
      subst counts
      obtain ⟨index, inside, evenly, rfl⟩ := exists_of_dropOne?_eq_some dropped
      have ignores := (evenly_iff_ignores within inside).mp evenly
      obtain ⟨selection, result, reduced, means⟩ := ih (within.eraseAt inside)
      refine ⟨selection, result, reduced, ?_⟩
      intro variant
      rw [means variant]
      have known := within.known _ (List.getElem_mem inside)
      exact contains_eraseAt_of_ignores inside ignores (variant.chosen_mem_domain known)

theorem not_ignores_iff {table : Combinations} (within : table.Within registry) (pivot : String) :
    ¬ table.Ignores registry pivot ↔
      ∃ (variant : registry.Variant) (choice : String) (declared : choice ∈ registry.domain pivot),
        table.Contains variant.chosen ∧ ¬ table.Contains (variant.set pivot choice declared).chosen := by
  constructor
  · intro matters
    simp only [Ignores, not_forall] at matters
    obtain ⟨chosen, choice, contained, declared, lost⟩ := matters
    obtain ⟨variant, agree⟩ := within.exists_variant contained
    refine ⟨variant, choice, declared, (table.contains_congr agree).mpr contained, ?_⟩
    intro kept
    apply lost
    refine (table.contains_congr ?_).mp kept
    intro other member
    rw [Variant.chosen_set]
    by_cases same : other = pivot
    · subst same
      simp
    · rw [Function.update_of_ne same, Function.update_of_ne same, agree other member]
  · intro given ignores
    rcases given with ⟨variant, choice, declared, contained, lost⟩
    exact lost (ignores _ _ contained declared)

theorem Reduced.exists_contains {table : Combinations} (reduced : table.Reduced registry) :
    ∃ variant : registry.Variant, table.Contains variant.chosen := by
  obtain ⟨row, present⟩ := List.exists_mem_of_ne_nil _ reduced.inhabited
  obtain ⟨chosen, _, contained⟩ := exists_contains_of_mem present
  obtain ⟨variant, agree⟩ := reduced.within.exists_variant contained
  exact ⟨variant, (table.contains_congr agree).mpr contained⟩

theorem Reduced.exists_not_contains {table : Combinations} (reduced : table.Reduced registry) :
    ∃ variant : registry.Variant, ¬ table.Contains variant.chosen := by
  obtain ⟨pivot, member⟩ := List.exists_mem_of_ne_nil _ reduced.proper
  obtain ⟨variant, choice, declared, _, lost⟩ :=
    (not_ignores_iff reduced.within pivot).mp (reduced.matters pivot member)
  exact ⟨_, lost⟩

theorem Reduced.mem_pivots_iff {table : Combinations} (reduced : table.Reduced registry)
    (pivot : String) :
    pivot ∈ table.pivots ↔
      ∃ (variant : registry.Variant) (choice : String) (declared : choice ∈ registry.domain pivot),
        table.Contains variant.chosen ∧ ¬ table.Contains (variant.set pivot choice declared).chosen := by
  constructor
  · intro member
    exact (not_ignores_iff reduced.within pivot).mp (reduced.matters pivot member)
  · intro given
    rcases given with ⟨variant, choice, declared, contained, lost⟩
    by_contra absent
    apply lost
    refine (table.contains_congr ?_).mpr contained
    intro other member
    have differs : other ≠ pivot := fun same => absent (same ▸ member)
    rw [Variant.chosen_set, Function.update_of_ne differs]

theorem Reduced.not_constant {table : Combinations} (reduced : table.Reduced registry) (holds : Bool) :
    ¬ ∀ variant : registry.Variant, holds = true ↔ table.Contains variant.chosen := by
  intro same
  cases holds with
  | false =>
      obtain ⟨variant, contained⟩ := reduced.exists_contains
      exact absurd ((same variant).mpr contained) Bool.false_ne_true
  | true =>
      obtain ⟨variant, lost⟩ := reduced.exists_not_contains
      exact lost ((same variant).mp rfl)

theorem Reduced.eq_of_contains_iff {first second : Combinations} (firstReduced : first.Reduced registry)
    (secondReduced : second.Reduced registry)
    (same : ∀ variant : registry.Variant,
      first.Contains variant.chosen ↔ second.Contains variant.chosen) : first = second := by
  have pivots : first.pivots = second.pivots := by
    apply eq_of_pairwise_lt first.pivots_ascending second.pivots_ascending
    intro pivot
    rw [firstReduced.mem_pivots_iff, secondReduced.mem_pivots_iff]
    simp only [same]
  have part {one other : Combinations} (within : one.Within registry)
      (pivots : one.pivots = other.pivots)
      (same : ∀ variant : registry.Variant,
        one.Contains variant.chosen → other.Contains variant.chosen) {chosen : String → String}
      (contained : one.Contains chosen) : other.Contains chosen := by
    obtain ⟨variant, agree⟩ := within.exists_variant contained
    refine (other.contains_congr fun pivot member => agree pivot (pivots ▸ member)).mp ?_
    exact same variant ((one.contains_congr agree).mpr contained)
  apply Combinations.eq_of_contains_iff pivots
  intro chosen
  exact ⟨part firstReduced.within pivots fun variant => (same variant).mp,
    part secondReduced.within pivots.symm fun variant => (same variant).mpr⟩

end Combinations

namespace Selection

theorem Reduced.known {selection : Selection} (reduced : selection.Reduced registry) :
    ∀ pivot ∈ selection.relevant, pivot ∈ registry.names := by
  cases selection with
  | constant holds => simp [relevant, toCombinations, Combinations.empty]
  | combinations table => exact reduced.within.known

theorem Reduced.eq_iff {first second : Selection} (firstReduced : first.Reduced registry)
    (secondReduced : second.Reduced registry) :
    first = second ↔ ∀ variant : registry.Variant,
      first.Accepts variant.chosen ↔ second.Accepts variant.chosen := by
  constructor
  · intro same _
    subst same
    exact Iff.rfl
  · intro same
    match first, second with
    | constant one, constant other =>
        have agree := same (Variant.standard registry)
        rw [accepts_constant, accepts_constant, Bool.coe_iff_coe] at agree
        rw [agree]
    | constant holds, combinations table =>
        exact absurd same (Combinations.Reduced.not_constant secondReduced holds)
    | combinations table, constant holds =>
        exact absurd (fun variant => (same variant).symm)
          (Combinations.Reduced.not_constant firstReduced holds)
    | combinations one, combinations other =>
        rw [firstReduced.eq_of_contains_iff secondReduced same]

end Selection

end Variants
