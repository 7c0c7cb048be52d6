import Variants.Proofs.Outcome
import Variants.Proofs.Pivot
import Variants.Registry

/-!
What a registry is built of: the pivots of the definitions that have choices, in order. So neither
definitions without choices nor repeated choices count.
-/

namespace Variants

theorem Pivot.choices_ofDefinition_eq_nil_iff {definition : PivotDefinition} :
    (ofDefinition definition).choices = [] ↔ definition.choices = [] := by
  change Choice.ofDefinitions definition.choices = [] ↔ definition.choices = []
  rw [Choice.ofDefinitions_eq_map, List.map_eq_nil_iff, firstDeclared_eq_nil_iff]

namespace Registry

def inhabited (definitions : List PivotDefinition) : List PivotDefinition :=
  definitions.filter fun definition => !definition.choices.isEmpty

theorem addDefinition_congr (registry : Registry) {first second : PivotDefinition}
    (same : Pivot.ofDefinition first = Pivot.ofDefinition second) :
    registry.addDefinition first = registry.addDefinition second := by
  simp only [addDefinition, same]

theorem addDefinition_of_uninhabited (registry : Registry) {definition : PivotDefinition}
    (uninhabited : definition.choices = []) : registry.addDefinition definition = .ok registry := by
  rw [addDefinition, dif_pos (Pivot.choices_ofDefinition_eq_nil_iff.mpr uninhabited)]

theorem pivots_of_addDefinition {registry next : Registry} {definition : PivotDefinition}
    (inhabited : definition.choices ≠ []) (accepted : registry.addDefinition definition = .ok next) :
    next.pivots = registry.pivots ++ [Pivot.ofDefinition definition] := by
  rw [addDefinition, dif_neg (mt Pivot.choices_ofDefinition_eq_nil_iff.mp inhabited), add] at accepted
  split at accepted
  · contradiction
  · split at accepted
    · rw [← Except.ok.inj accepted]
    · contradiction

theorem foldlM_inhabited (registry : Registry) (definitions : List PivotDefinition) :
    (inhabited definitions).foldlM addDefinition registry = definitions.foldlM addDefinition registry := by
  induction definitions generalizing registry with
  | nil => rfl
  | cons definition rest ih =>
      rw [inhabited, List.filter_cons, ← inhabited, List.foldlM_cons]
      cases choices : definition.choices with
      | nil =>
          rw [addDefinition_of_uninhabited registry choices]
          exact ih registry
      | cons choice others =>
          rw [List.isEmpty_cons, Bool.not_false, if_pos rfl, List.foldlM_cons]
          exact congrArg _ (funext ih)

theorem build_inhabited (definitions : List PivotDefinition) :
    build (inhabited definitions) = build definitions :=
  foldlM_inhabited empty definitions

theorem build_declaredFirst (definitions : List PivotDefinition) :
    build (definitions.map PivotDefinition.declaredFirst) = build definitions := by
  rw [build, build, List.foldlM_map]
  congr 1
  funext registry definition
  exact addDefinition_congr registry (Pivot.ofDefinition_declaredFirst definition)

theorem pivots_of_foldlM {registry result : Registry} {definitions : List PivotDefinition}
    (accepted : definitions.foldlM addDefinition registry = .ok result) :
    result.pivots = registry.pivots ++ (inhabited definitions).map Pivot.ofDefinition := by
  induction definitions generalizing registry with
  | nil =>
      rw [← Except.ok.inj accepted]
      exact (List.append_nil _).symm
  | cons definition rest ih =>
      rw [List.foldlM_cons, Outcome.bind_eq_ok_iff] at accepted
      obtain ⟨next, added, accepted⟩ := accepted
      rw [ih accepted, inhabited, inhabited, List.filter_cons]
      cases choices : definition.choices with
      | nil =>
          rw [addDefinition_of_uninhabited registry choices] at added
          rw [← Except.ok.inj added]
          rfl
      | cons choice others =>
          rw [pivots_of_addDefinition (by simp [choices]) added]
          simp

theorem pivots_of_build {definitions : List PivotDefinition} {registry : Registry}
    (accepted : build definitions = .ok registry) :
    registry.pivots = (inhabited definitions).map Pivot.ofDefinition :=
  pivots_of_foldlM accepted

theorem nodup_names_inhabited {definitions : List PivotDefinition} {registry : Registry}
    (accepted : build definitions = .ok registry) : ((inhabited definitions).map (·.name)).Nodup := by
  have distinct := registry.names_distinct
  rw [pivots_of_build accepted, List.map_map] at distinct
  exact distinct

end Registry

end Variants
