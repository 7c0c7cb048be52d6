import Mathlib.Data.List.Basic
import Variants.Example
import Variants.Proofs.Engine.Usage
import Variants.Proofs.Registry.Ambiguity

/-!
Usage reports. A report goes over the declared choices, so it would lose a used choice that no pivot
declares. No run uses such a choice: what it marks is named by a word, and words name declared choices only.
-/

namespace Variants

variable {Custom : Type}

namespace Usage

variable {usage : Usage} {pivot choice : String}

theorem mem_lookup_snapshot_iff :
    choice ∈ (usage.snapshot.lookup pivot).getD [] ↔ (pivot, choice) ∈ usage.marks := by
  by_cases used : pivot ∈ usage.pivots
  · have found : usage.snapshot.lookup pivot = some (usage.choices pivot) :=
      List.lookup_graph usage.choices used
    simp [found, choices]
  · have missing : usage.snapshot.lookup pivot = none := by
      rw [List.lookup_eq_none_iff]
      intro entry member
      rcases List.mem_map.mp member with ⟨other, present, rfl⟩
      exact bne_iff_ne.mpr fun same => used (same ▸ present)
    have unmarked : (pivot, choice) ∉ usage.marks := fun marked =>
      used (mem_ascending.mpr (List.mem_map_of_mem marked))
    simp [missing, unmarked]

theorem isUsed_eq_decide (usage : Usage) (pivot choice : String) :
    usage.isUsed pivot choice = decide (choice ∈ (usage.snapshot.lookup pivot).getD []) := by
  rw [Bool.eq_iff_iff, decide_eq_true_iff, mem_lookup_snapshot_iff, isUsed, List.contains_iff_mem]

theorem mem_keys_snapshot_iff :
    pivot ∈ usage.snapshot.map (·.1) ↔ ∃ choice, (pivot, choice) ∈ usage.marks := by
  simp [snapshot, pivots]

end Usage

namespace Report

theorem unusedWarning_injective : Function.Injective unusedWarning := by
  intro pivot other same
  simpa [unusedWarning] using same

def ofUsages (rendered : Int) (usages : List PivotUsage) : Report where
  pivots := usages
  rendered := rendered
  warnings := ((usages.filter (·.used.isEmpty)).map (·.pivot)).map unusedWarning

variable {engine : Engine Custom} {rendered : Int} {usages : List PivotUsage}

@[simp]
theorem pivot_usageOf (engine : Engine Custom) (pivot : Pivot) :
    (usageOf engine pivot).pivot = pivot.name := rfl

theorem usageOf_eq (engine : Engine Custom) (pivot : Pivot) :
    let seen := (engine.usage.snapshot.lookup pivot.name).getD []
    usageOf engine pivot =
      { pivot := pivot.name
        used := pivot.choiceNames.filter (· ∈ seen)
        unused := pivot.choiceNames.filter (· ∉ seen) } := by
  intro seen
  have isUsed : engine.usage.isUsed pivot.name = fun choice => decide (choice ∈ seen) :=
    funext (engine.usage.isUsed_eq_decide pivot.name)
  simp only [usageOf, isUsed, decide_not]

theorem add_ofUsages {usage : PivotUsage} (fresh : usage.pivot ∉ usages.map (·.pivot)) :
    (ofUsages rendered usages).add usage =
      { ofUsages rendered usages with pivots := usages ++ [usage] } := by
  have unlisted : ¬ (usages.any (·.pivot == usage.pivot)) = true := by
    simpa using fresh
  exact if_neg unlisted

theorem addPivot_ofUsages {pivot : Pivot} (fresh : pivot.name ∉ usages.map (·.pivot)) :
    addPivot engine (ofUsages rendered usages) pivot =
      ofUsages rendered (usages ++ [usageOf engine pivot]) := by
  have unwarned : unusedWarning pivot.name ∉
      ((usages.filter (·.used.isEmpty)).map (·.pivot)).map unusedWarning := by
    rw [List.mem_map_of_injective unusedWarning_injective]
    intro unused
    rcases List.mem_map.mp unused with ⟨usage, kept, same⟩
    exact fresh (List.mem_map.mpr ⟨usage, (List.mem_filter.mp kept).1, same⟩)
  rw [addPivot, add_ofUsages fresh]
  by_cases unused : (usageOf engine pivot).used.isEmpty
  · rw [if_pos unused, warn, if_neg (by simpa [ofUsages] using unwarned)]
    simp [ofUsages, unused]
  · rw [if_neg unused]
    simp [ofUsages, unused]

theorem foldl_addPivot {pivots : List Pivot}
    (distinct : (usages.map (·.pivot) ++ pivots.map (·.name)).Nodup) :
    pivots.foldl (addPivot engine) (ofUsages rendered usages) =
      ofUsages rendered (usages ++ pivots.map (usageOf engine)) := by
  induction pivots generalizing usages with
  | nil => simp
  | cons pivot rest ih =>
      have fresh : pivot.name ∉ usages.map (·.pivot) := by
        intro listed
        rw [List.nodup_append] at distinct
        exact distinct.2.2 _ listed _ List.mem_cons_self rfl
      rw [List.foldl_cons, addPivot_ofUsages fresh, ih, List.map_cons, List.append_assoc]
      · rfl
      · simpa using distinct

/-- The used choices that a report lists. -/
def usedMarks (report : Report) : List Mark :=
  report.pivots.flatMap fun usage => usage.used.map (usage.pivot, ·)

end Report

namespace Engine

open Report

variable {engine : Engine Custom}

theorem analyze_eq_ofUsages (engine : Engine Custom) :
    engine.analyze = ofUsages engine.cache.size (engine.registry.pivots.map (usageOf engine)) := by
  have start : ({ rendered := engine.cache.size } : Report) = ofUsages engine.cache.size [] := rfl
  rw [analyze, start, foldl_addPivot (by simpa using engine.registry.names_distinct), List.nil_append]

theorem warnings_analyze (engine : Engine Custom) :
    engine.analyze.warnings = engine.analyze.unusedPivots.map unusedWarning := by
  rw [analyze_eq_ofUsages]
  rfl

theorem usedMarks_analyze (engine : Engine Custom) :
    engine.analyze.usedMarks = engine.registry.declarations.filter (engine.usage.marks.contains ·) := by
  have used (pivot : Pivot) : (usageOf engine pivot).used.map (pivot.name, ·) =
      (pivot.choiceNames.map (pivot.name, ·)).filter (engine.usage.marks.contains ·) := by
    rw [List.filter_map]
    rfl
  calc
    engine.analyze.usedMarks =
        engine.registry.pivots.flatMap fun pivot => (usageOf engine pivot).used.map (pivot.name, ·) := by
      rw [analyze_eq_ofUsages, usedMarks, ofUsages, List.flatMap_map]
      rfl
    _ = engine.registry.pivots.flatMap fun pivot =>
        (pivot.choiceNames.map (pivot.name, ·)).filter (engine.usage.marks.contains ·) := by
      rw [funext used]
    _ = engine.registry.declarations.filter (engine.usage.marks.contains ·) := by
      rw [Registry.declarations, List.filter_flatMap]

/-- Every mark names a declared choice. -/
def Known (engine : Engine Custom) : Prop :=
  ∀ mark ∈ engine.usage.marks, engine.registry.Declares mark.1 mark.2

theorem Known.count_usedMarks_eq_one_iff (known : engine.Known) {mark : Mark} :
    engine.analyze.usedMarks.count mark = 1 ↔ mark ∈ engine.usage.marks := by
  have distinct : engine.analyze.usedMarks.Nodup := by
    rw [usedMarks_analyze]
    exact engine.registry.nodup_declarations.filter _
  have member : mark ∈ engine.analyze.usedMarks ↔ mark ∈ engine.usage.marks := by
    rw [usedMarks_analyze, List.mem_filter, Registry.mem_declarations, List.contains_iff_mem]
    exact and_iff_right_of_imp (known mark)
  rw [← member]
  constructor
  · intro once
    exact List.count_pos_iff.mp (by omega)
  · exact List.count_eq_one_of_mem distinct

theorem Known.used_isEmpty_iff (known : engine.Known) {pivot : Pivot}
    (present : pivot ∈ engine.registry.pivots) :
    (usageOf engine pivot).used.isEmpty ↔ pivot.name ∉ engine.usage.snapshot.map (·.1) := by
  rw [List.isEmpty_iff, usageOf, List.filter_eq_nil_iff, Usage.mem_keys_snapshot_iff, not_exists]
  constructor
  · intro unused choice marked
    have declared := (Registry.declares_name_iff present).mp (known _ marked)
    exact unused choice declared (List.contains_iff_mem.mpr marked)
  · intro unmarked choice _ used
    exact unmarked choice (List.contains_iff_mem.mp used)

theorem Known.unusedPivots_analyze (known : engine.Known) :
    engine.analyze.unusedPivots =
      engine.registry.names.filter (· ∉ engine.usage.snapshot.map (·.1)) := by
  calc
    engine.analyze.unusedPivots =
        (engine.registry.pivots.filter fun pivot => (usageOf engine pivot).used.isEmpty).map (·.name) := by
      rw [analyze_eq_ofUsages, unusedPivots, ofUsages, List.filter_map, List.map_map]
      rfl
    _ = (engine.registry.pivots.filter fun pivot =>
        pivot.name ∉ engine.usage.snapshot.map (·.1)).map (·.name) := by
      congr 1
      apply List.filter_congr
      intro pivot present
      rw [Bool.eq_iff_iff, known.used_isEmpty_iff present, decide_eq_true_iff]
    _ = engine.registry.names.filter (· ∉ engine.usage.snapshot.map (·.1)) := by
      rw [Registry.names, List.filter_map]
      rfl

variable [DecidableEq Custom] [AtomWriter Custom]

theorem known_after_fresh (registry : Registry) (requests : List (Request Custom)) :
    (after ({ registry } : Engine Custom) requests).Known := by
  intro mark marked
  rw [registry_after]
  rcases ((marked_fresh registry).mem_usage_after_iff requests).mp marked with
    initially | ⟨request, _, text, _, _, word, _, named⟩
  · contradiction
  · exact Registry.declares_of_resolve?_eq_some named

/-- After any run, the report has one entry for each pivot, which divides the choices of the pivot into those
that are used and those that are not; it lists every used choice once; it warns of the pivots without
a used choice; and asking for it leaves the engine as it is. -/
theorem analyze_partitions (registry : Registry) (requests : List (Request Custom)) :
    let engine := after ({ registry } : Engine Custom) requests
    let used := engine.usage.snapshot
    let report := engine.analyze
    report.pivots = registry.pivots.map (fun pivot =>
        let seen := (used.lookup pivot.name).getD []
        { pivot := pivot.name
          used := pivot.choiceNames.filter (· ∈ seen)
          unused := pivot.choiceNames.filter (· ∉ seen) }) ∧
      (∀ pivot choice, (∃ choices, (pivot, choices) ∈ used ∧ choice ∈ choices) ↔
        report.usedMarks.count (pivot, choice) = 1) ∧
      report.unusedPivots = registry.names.filter (· ∉ used.map (·.1)) ∧
      report.warnings = report.unusedPivots.map unusedWarning ∧
      engine.perform .analyze = (.ok (.report report), engine) := by
  intro engine used report
  have known : engine.Known := known_after_fresh registry requests
  have same : engine.registry = registry := registry_after _ requests
  refine ⟨?_, ?_, ?_, warnings_analyze engine, rfl⟩
  · have pivots : report.pivots = engine.registry.pivots.map (usageOf engine) := by
      simp only [report, analyze_eq_ofUsages, ofUsages]
    rw [pivots, same, funext (usageOf_eq engine)]
  · intro pivot choice
    rw [Usage.mem_snapshot_iff, known.count_usedMarks_eq_one_iff]
  · rw [← same]
    exact known.unusedPivots_analyze

example :
    let requests : List Request := [.label (some "x86 & (true | Debug)"), .evaluate (some "Release |")]
    (after ({ registry := Example.registry } : Engine) requests).analyze.warnings =
      ["Pivot 'Linkage' is never referenced by any expression",
        "Pivot 'PlatformToolset' is never referenced by any expression"] := by
  decide +kernel

end Engine

end Variants
