import Variants.Proofs.Selection.Simplification

/-!
Simplification of combinations whose choices nobody has checked. Pivots are dropped by count alone, so the
result accepts what agrees with some combination on the pivots that are left. No variant is ever lost.
With declared choices only none is added; an undeclared choice is counted like a declared one and can
make the count right where the combinations are not.
-/

namespace Variants

open Registry (Variant)

variable {registry : Registry}

namespace Selection

/-- The selection accepts what agrees with some combination of the table on the pivots that are left. -/
structure Projects (selection : Selection) (table : Combinations) : Prop where
  inside : ∀ pivot ∈ selection.relevant, pivot ∈ table.pivots
  accepts_iff : ∀ chosen, selection.Accepts chosen ↔
    ∃ other, table.Contains other ∧ ∀ pivot ∈ selection.relevant, other pivot = chosen pivot

theorem projects_combinations (table : Combinations) : (combinations table).Projects table where
  inside _ member := member
  accepts_iff chosen := by
    constructor
    · intro contained
      exact ⟨chosen, contained, fun _ _ => rfl⟩
    · intro given
      rcases given with ⟨other, contained, agree⟩
      exact (table.contains_congr agree).mp contained

theorem projects_constant_false {table : Combinations} (empty : table.rows = []) :
    (constant false).Projects table where
  inside _ member := absurd member List.not_mem_nil
  accepts_iff chosen := by
    simp [Combinations.not_contains_of_rows_nil empty]

theorem projects_constant_true {table : Combinations} (inhabited : table.rows ≠ []) :
    (constant true).Projects table where
  inside _ member := absurd member List.not_mem_nil
  accepts_iff chosen := by
    obtain ⟨row, present⟩ := List.exists_mem_of_ne_nil _ inhabited
    obtain ⟨other, _, contained⟩ := Combinations.exists_contains_of_mem present
    exact iff_of_true rfl ⟨other, contained, fun _ member => absurd member List.not_mem_nil⟩

theorem Projects.of_eraseAt {selection : Selection} {table : Combinations} {index : Nat}
    (bound : index < table.pivots.length) (projects : selection.Projects (table.eraseAt index)) :
    selection.Projects table where
  inside pivot member := ((Combinations.mem_pivots_eraseAt bound).mp (projects.inside pivot member)).1
  accepts_iff chosen := by
    have kept : ∀ pivot ∈ selection.relevant, pivot ≠ table.pivots[index] := fun pivot member =>
      ((Combinations.mem_pivots_eraseAt bound).mp (projects.inside pivot member)).2
    rw [projects.accepts_iff]
    constructor
    · intro given
      rcases given with ⟨other, contained, agree⟩
      obtain ⟨choice, completed⟩ := (Combinations.contains_eraseAt bound).mp contained
      refine ⟨_, completed, ?_⟩
      intro pivot member
      rw [Function.update_of_ne (kept pivot member), agree pivot member]
    · intro given
      rcases given with ⟨other, contained, agree⟩
      refine ⟨other, (Combinations.contains_eraseAt bound).mpr ⟨other table.pivots[index], ?_⟩, agree⟩
      rwa [Function.update_eq_self]

theorem Projects.accepts_iff_exists_row {selection : Selection} {table : Combinations}
    (projects : selection.Projects table) (chosen : String → String) :
    selection.Accepts chosen ↔ ∃ row ∈ table.rows,
      row.restrict table.pivots selection.relevant = selection.relevant.map chosen := by
  rw [projects.accepts_iff]
  constructor
  · intro given
    rcases given with ⟨other, contained, agree⟩
    refine ⟨_, contained, ?_⟩
    rw [Row.restrict_map projects.inside]
    exact List.map_congr_left agree
  · intro given
    rcases given with ⟨row, present, same⟩
    obtain ⟨other, rfl, contained⟩ := Combinations.exists_contains_of_mem present
    rw [Row.restrict_map projects.inside] at same
    exact ⟨other, contained, List.map_inj_left.mp same⟩

end Selection

namespace Combinations

theorem simplify_projects {table : Combinations}
    (known : ∀ pivot ∈ table.pivots, pivot ∈ registry.names) :
    ∃ selection, table.simplify registry = .ok selection ∧ selection.Projects table := by
  fun_induction simplify registry table with
  | case1 table empty =>
      exact ⟨_, rfl, Selection.projects_constant_false (List.isEmpty_iff.mp empty)⟩
  | case2 table _ cause fails =>
      rw [sizes_eq_ok known] at fails
      contradiction
  | case3 table inhabited sizes _ _ =>
      exact ⟨_, rfl, Selection.projects_constant_true fun empty => inhabited (List.isEmpty_iff.mpr empty)⟩
  | case4 table _ _ _ _ _ => exact ⟨_, rfl, Selection.projects_combinations table⟩
  | case5 table _ sizes counts _ smaller dropped ih =>
      rw [sizes_eq_ok known, Except.ok.injEq] at counts
      subst counts
      obtain ⟨index, inside, _, rfl⟩ := exists_of_dropOne?_eq_some dropped
      have fewerKnown : ∀ pivot ∈ (table.eraseAt index).pivots, pivot ∈ registry.names :=
        fun pivot member => known pivot ((mem_pivots_eraseAt inside).mp member).1
      obtain ⟨selection, result, projects⟩ := ih fewerKnown
      exact ⟨selection, result, projects.of_eraseAt inside⟩

theorem eq_ofAssignments {pivots : List String} {assignments : List Assignment} {table : Combinations}
    (built : ofAssignments? pivots assignments = .ok table) : table = ofAssignments pivots assignments := by
  rw [ofAssignments?] at built
  split at built
  · contradiction
  · exact (Except.ok.inj built).symm

theorem known_of_built {pivots : List String} {assignments : List Assignment} {table : Combinations}
    (known : ∀ pivot ∈ pivots, pivot ∈ registry.names)
    (built : ofAssignments? pivots assignments = .ok table) :
    ∀ pivot ∈ (Selection.combinations table).relevant, pivot ∈ registry.names := by
  rw [eq_ofAssignments built]
  intro pivot member
  exact known pivot (mem_ascending.mp member)

theorem within_of_built {pivots : List String} {assignments : List Assignment} {table : Combinations}
    (known : ∀ pivot ∈ pivots, pivot ∈ registry.names)
    (built : ofAssignments? pivots assignments = .ok table)
    (declared : ∀ assignment ∈ assignments, ∀ pivot ∈ pivots,
      registry.Declares pivot (assignment.chosen pivot)) : table.Within registry := by
  apply within_iff.mpr
  refine ⟨known_of_built known built, ?_⟩
  rw [eq_ofAssignments built]
  intro chosen contained pivot member
  obtain ⟨assignment, given, agrees⟩ := contains_ofAssignments.mp contained
  have asked := mem_ascending.mp member
  rw [← agrees pivot asked]
  exact Registry.mem_domain.mpr (declared assignment given pivot asked)

end Combinations

namespace Selection

theorem admits_eq_true_iff {selection : Selection}
    (known : ∀ pivot ∈ selection.relevant, pivot ∈ registry.names) (variant : registry.Variant) :
    selection.admits variant.choice? = .ok true ↔ selection.Accepts variant.chosen := by
  rw [admits_eq_ok known, Except.ok.injEq, decide_eq_true_iff]

/-- Simplifying combinations of known pivots admits the variants that agree with a combination on the
pivots that are left. It loses no variant, and it adds none if all choices are declared. -/
theorem simplify_admits_projection (registry : Registry) (pivots : List String)
    (assignments : List Assignment) (table : Combinations)
    (known : ∀ pivot ∈ pivots, pivot ∈ registry.names)
    (built : Combinations.ofAssignments? pivots assignments = .ok table) :
    ∃ selection, (combinations table).simplify registry = .ok selection ∧
      (∀ variant : registry.Variant, selection.admits variant.choice? =
        .ok (decide (∃ row ∈ table.rows,
          row.restrict table.pivots selection.relevant = selection.relevant.map variant.chosen))) ∧
      (∀ variant : registry.Variant, (combinations table).admits variant.choice? = .ok true →
        selection.admits variant.choice? = .ok true) ∧
      ((∀ assignment ∈ assignments, ∀ pivot ∈ pivots,
          registry.Declares pivot (assignment.chosen pivot)) →
        ∀ variant : registry.Variant, selection.admits variant.choice? = .ok true →
          (combinations table).admits variant.choice? = .ok true) := by
  have tableKnown := Combinations.known_of_built known built
  obtain ⟨selection, result, projects⟩ := Combinations.simplify_projects tableKnown
  have selectionKnown : ∀ pivot ∈ selection.relevant, pivot ∈ registry.names :=
    fun pivot member => tableKnown pivot (projects.inside pivot member)
  refine ⟨selection, result, ?_, ?_, ?_⟩
  · intro variant
    rw [admits_eq_ok selectionKnown, Except.ok.injEq, decide_eq_decide]
    exact projects.accepts_iff_exists_row variant.chosen
  · intro variant
    rw [admits_eq_true_iff selectionKnown, admits_eq_true_iff tableKnown]
    intro contained
    exact (projects.accepts_iff _).mpr ⟨_, contained, fun _ _ => rfl⟩
  · intro declared variant
    have within := Combinations.within_of_built known built declared
    obtain ⟨_, again, _, means⟩ := Combinations.simplify_computes within
    rw [← Except.ok.inj (result.symm.trans again)] at means
    rw [admits_eq_true_iff selectionKnown, admits_eq_true_iff tableKnown]
    exact (means variant).mp

theorem simplify_admits_projection_of_example :
    let assignments : List Assignment :=
      [[("Platform", "x64"), ("Configuration", "Debug")],
        [("Configuration", "Release"), ("Platform", "x64")],
        [("Configuration", "Profile"), ("Platform", "ARM")],
        [("Configuration", "Debug"), ("Platform", "ARM")]]
    let table : Combinations := ⟨["Configuration", "Platform"],
      [["Debug", "ARM"], ["Debug", "x64"], ["Profile", "ARM"], ["Release", "x64"]],
      by decide, by decide, by decide⟩
    (∀ pivot ∈ ["Platform", "Configuration"], pivot ∈ Example.registry.names) ∧
      Combinations.ofAssignments? ["Platform", "Configuration"] assignments = .ok table ∧
      ∃ selection, (combinations table).simplify Example.registry = .ok selection ∧
        (∀ variant : Example.registry.Variant, selection.admits variant.choice? =
          .ok (decide (∃ row ∈ table.rows,
            row.restrict table.pivots selection.relevant = selection.relevant.map variant.chosen))) ∧
        (∀ variant : Example.registry.Variant, (combinations table).admits variant.choice? = .ok true →
          selection.admits variant.choice? = .ok true) ∧
        ((∀ assignment ∈ assignments, ∀ pivot ∈ ["Platform", "Configuration"],
            Example.registry.Declares pivot (assignment.chosen pivot)) →
          ∀ variant : Example.registry.Variant, selection.admits variant.choice? = .ok true →
            (combinations table).admits variant.choice? = .ok true) := by
  intro assignments table
  have known : ∀ pivot ∈ ["Platform", "Configuration"], pivot ∈ Example.registry.names := by decide
  have built : Combinations.ofAssignments? ["Platform", "Configuration"] assignments = .ok table := by
    decide +kernel
  exact ⟨known, built,
    simplify_admits_projection Example.registry _ assignments table known built⟩

/-- A combination of a choice that no longer is declared makes up for one that is missing: what was said
of one configuration is said of all. -/
theorem simplify_adds_variant :
    ∃ table selection,
      Combinations.ofAssignments? ["Configuration"]
        [[("Configuration", "Release")], [("Configuration", "Profile")]] = .ok table ∧
      (combinations table).simplify Example.registry = .ok selection ∧
      ∃ variant : Example.registry.Variant, selection.admits variant.choice? = .ok true ∧
        (combinations table).admits variant.choice? = .ok false := by
  let table : Combinations :=
    ⟨["Configuration"], [["Profile"], ["Release"]], by decide, by decide, by decide⟩
  have sizes : table.sizes Example.registry = .ok [2] := by decide +kernel
  have simplified : table.simplify Example.registry = .ok (constant true) := by
    rw [Combinations.simplify]
    simp [sizes, table]
  refine ⟨table, constant true, by decide +kernel, simplified, Variant.standard Example.registry, rfl, ?_⟩
  decide +kernel

end Selection

end Variants
