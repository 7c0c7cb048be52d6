import Variants.Example
import Variants.Proofs.Condition.Meaning
import Variants.Proofs.Selection.Minimal

/-!
Simplification computes the minimal form: what a selection of known pivots and declared choices is made
into admits the same variants, speaks of exactly the pivots that these depend on, and is the same for all
selections that admit them.
-/

namespace Variants

open Registry (Variant)

variable {registry : Registry}

namespace Selection

/-- A constant, or combinations of known pivots and declared choices. -/
def Within (registry : Registry) : Selection → Prop
  | constant _ => True
  | combinations table => table.Within registry

/-- Whether two variants that differ at most in one pivot are told apart. -/
def DependsOn (registry : Registry) (selection : Selection) (pivot : String) : Prop :=
  ∃ one other : registry.Variant,
    (∀ name ∈ registry.names, name ≠ pivot → one.choice? name = other.choice? name) ∧
      selection.admits one.choice? ≠ selection.admits other.choice?

/-- A constant, or some but not all combinations of exactly the pivots that another selection depends
on. -/
def MinimalFor (registry : Registry) (selection source : Selection) : Prop :=
  match selection with
  | constant _ => True
  | combinations table =>
    table.pivots.Pairwise (· < ·) ∧ table.rows ≠ [] ∧
      (∃ row ∈ Combinations.choicesProduct (table.pivots.map registry.domain), row ∉ table.rows) ∧
      ∀ pivot, pivot ∈ table.pivots ↔ source.DependsOn registry pivot

theorem Within.known {selection : Selection} (within : selection.Within registry) :
    ∀ pivot ∈ selection.relevant, pivot ∈ registry.names := by
  cases selection with
  | constant holds => simp [relevant, toCombinations, Combinations.empty]
  | combinations table => exact Combinations.Within.known within

theorem simplify_computes {selection : Selection} (within : selection.Within registry) :
    Computes registry (selection.simplify registry) fun variant =>
      selection.Accepts variant.chosen := by
  cases selection with
  | constant holds => exact ⟨constant holds, rfl, trivial, fun _ => Iff.rfl⟩
  | combinations table => exact Combinations.simplify_computes within

theorem admits_eq_iff {first second : Selection}
    (firstKnown : ∀ pivot ∈ first.relevant, pivot ∈ registry.names)
    (secondKnown : ∀ pivot ∈ second.relevant, pivot ∈ registry.names) (one other : registry.Variant) :
    first.admits one.choice? = second.admits other.choice? ↔
      (first.Accepts one.chosen ↔ second.Accepts other.chosen) := by
  rw [admits_eq_ok firstKnown, admits_eq_ok secondKnown, Except.ok.injEq, decide_eq_decide]

theorem dependsOn_congr {first second : Selection}
    (same : ∀ variant : registry.Variant,
      first.admits variant.choice? = second.admits variant.choice?) (pivot : String) :
    first.DependsOn registry pivot ↔ second.DependsOn registry pivot := by
  simp only [DependsOn, same]

end Selection

namespace Combinations

theorem Reduced.dependsOn_iff {table : Combinations} (reduced : table.Reduced registry)
    (pivot : String) :
    (Selection.combinations table).DependsOn registry pivot ↔ pivot ∈ table.pivots := by
  have known : ∀ pivot ∈ (Selection.combinations table).relevant, pivot ∈ registry.names :=
    reduced.within.known
  have admits (one other : registry.Variant) :
      (Selection.combinations table).admits one.choice? =
          (Selection.combinations table).admits other.choice? ↔
        (table.Contains one.chosen ↔ table.Contains other.chosen) :=
    Selection.admits_eq_iff known known one other
  constructor
  · intro depends
    rcases depends with ⟨one, other, agree, apart⟩
    by_contra absent
    apply apart
    apply (admits one other).mpr
    apply table.contains_congr
    intro name relevant
    have differs : name ≠ pivot := fun same => absent (same ▸ relevant)
    rw [Variant.chosen, agree name (known name relevant) differs, ← Variant.chosen]
  · intro relevant
    obtain ⟨variant, choice, declared, contained, lost⟩ := (reduced.mem_pivots_iff pivot).mp relevant
    refine ⟨variant, variant.set pivot choice declared, ?_, ?_⟩
    · intro name knownName differs
      rw [variant.choice?_eq knownName, Variant.choice?_eq _ knownName, Variant.chosen_set,
        Function.update_of_ne differs]
    · intro same
      exact lost (((admits _ _).mp same).mp contained)

theorem Reduced.exists_row_not_mem {table : Combinations} (reduced : table.Reduced registry) :
    ∃ row ∈ choicesProduct (table.pivots.map registry.domain), row ∉ table.rows := by
  obtain ⟨variant, lost⟩ := reduced.exists_not_contains
  refine ⟨table.pivots.map variant.chosen, ?_, lost⟩
  apply map_mem_choicesProduct.mpr
  intro pivot relevant
  exact variant.chosen_mem_domain (reduced.within.known pivot relevant)

end Combinations

namespace Selection

theorem Reduced.minimalFor {selection source : Selection} (reduced : selection.Reduced registry)
    (same : ∀ variant : registry.Variant,
      selection.admits variant.choice? = source.admits variant.choice?) :
    selection.MinimalFor registry source := by
  cases selection with
  | constant holds => trivial
  | combinations table =>
      refine ⟨table.pivots_ascending, Combinations.Reduced.inhabited reduced,
        Combinations.Reduced.exists_row_not_mem reduced, ?_⟩
      intro pivot
      rw [← dependsOn_congr same pivot]
      exact (Combinations.Reduced.dependsOn_iff reduced pivot).symm

/-- Simplifying succeeds, keeps what is admitted, leaves the minimal form, and makes equal exactly what
admits the same variants. -/
theorem simplify_minimal (registry : Registry) (first second : Selection)
    (firstWithin : first.Within registry) (secondWithin : second.Within registry) :
    ∃ one other, first.simplify registry = .ok one ∧ second.simplify registry = .ok other ∧
      (∀ variant : registry.Variant, ∃ admitted,
        first.admits variant.choice? = .ok admitted ∧ one.admits variant.choice? = .ok admitted) ∧
      one.MinimalFor registry first ∧
      (one = other ↔ ∀ variant : registry.Variant,
        first.admits variant.choice? = second.admits variant.choice?) := by
  rcases simplify_computes firstWithin with ⟨one, oneResult, oneReduced, oneMeans⟩
  rcases simplify_computes secondWithin with ⟨other, otherResult, otherReduced, otherMeans⟩
  have kept (variant : registry.Variant) :
      one.admits variant.choice? = first.admits variant.choice? :=
    (admits_eq_iff oneReduced.known firstWithin.known variant variant).mpr (oneMeans variant)
  refine ⟨one, other, oneResult, otherResult, ?_, oneReduced.minimalFor kept, ?_⟩
  · intro variant
    have admitted := admits_eq_ok firstWithin.known variant
    exact ⟨_, admitted, (kept variant).trans admitted⟩
  · rw [oneReduced.eq_iff otherReduced]
    apply forall_congr'
    intro variant
    rw [oneMeans variant, otherMeans variant,
      admits_eq_iff firstWithin.known secondWithin.known variant variant]

theorem simplify_minimal_of_example :
    let first := combinations ⟨["Configuration", "Linkage"],
      [["Debug", "ltcg"], ["Debug", "static"], ["Release", "ltcg"], ["Release", "static"]],
      by decide, by decide, by decide⟩
    let second := combinations ⟨["Linkage"], [["ltcg"], ["static"]], by decide, by decide, by decide⟩
    first.Within Example.registry ∧ second.Within Example.registry ∧
      ∃ one other, first.simplify Example.registry = .ok one ∧
        second.simplify Example.registry = .ok other ∧
        (∀ variant : Example.registry.Variant, ∃ admitted,
          first.admits variant.choice? = .ok admitted ∧ one.admits variant.choice? = .ok admitted) ∧
        one.MinimalFor Example.registry first ∧
        (one = other ↔ ∀ variant : Example.registry.Variant,
          first.admits variant.choice? = second.admits variant.choice?) := by
  intro first second
  have firstWithin : first.Within Example.registry := ⟨by decide, by decide⟩
  have secondWithin : second.Within Example.registry := ⟨by decide, by decide⟩
  exact ⟨firstWithin, secondWithin, simplify_minimal Example.registry first second firstWithin secondWithin⟩

end Selection

end Variants
