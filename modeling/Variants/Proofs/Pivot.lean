import Mathlib.Data.List.Induction
import Variants.Pivot

/-!
Definitions of pivots. Of their fields it matters whether they are given and whether they are texts. A pivot
has the choices of its definition, each as it is declared first, so definitions that declare the same choices
first make the same pivot.
-/

namespace Variants

structure ChoiceDefinition.Bare (choice : ChoiceDefinition) : Prop where
  description : choice.description = .null
  aliases : choice.aliases = []
  condition : choice.condition = none

theorem Value.isNull_iff {value : Value} : (value matches .null) = true ↔ value = .null := by
  cases value <;> simp

instance (value : Value) : Decidable (value = .null) :=
  decidable_of_iff _ Value.isNull_iff

instance : DecidablePred ChoiceDefinition.Bare :=
  fun choice => decidable_of_iff
    (choice.description = .null ∧ choice.aliases = [] ∧ choice.condition = none)
    ⟨fun ⟨description, aliases, condition⟩ => ⟨description, aliases, condition⟩,
      fun bare => ⟨bare.description, bare.aliases, bare.condition⟩⟩

/-- A value that is a text or missing. -/
def Value.Textual (value : Value) : Prop :=
  value = .null ∨ ∃ text, value = .text text

theorem Value.isTextual_iff {value : Value} : (value matches .null | .text _) = true ↔ value.Textual := by
  cases value <;> simp [Value.Textual]

instance : DecidablePred Value.Textual :=
  fun _ => decidable_of_iff _ Value.isTextual_iff

/-- A pivot whose fields are texts where they are given. -/
structure PivotDefinition.Textual (pivot : PivotDefinition) : Prop where
  key : pivot.key.Textual
  description : pivot.description.Textual
  choices : ∀ choice ∈ pivot.choices, choice.description.Textual

instance : DecidablePred PivotDefinition.Textual :=
  fun pivot => decidable_of_iff
    (pivot.key.Textual ∧ pivot.description.Textual ∧
      ∀ choice ∈ pivot.choices, choice.description.Textual)
    ⟨fun ⟨key, description, choices⟩ => ⟨key, description, choices⟩,
      fun textual => ⟨textual.key, textual.description, textual.choices⟩⟩

/-- The choices of a definition without those that repeat an earlier name. -/
def firstDeclared (choices : List ChoiceDefinition) : List ChoiceDefinition :=
  choices.foldl
    (fun known choice => if known.any (·.name == choice.name) then known else known ++ [choice]) []

theorem firstDeclared_append_singleton (choices : List ChoiceDefinition) (choice : ChoiceDefinition) :
    firstDeclared (choices ++ [choice]) =
      if (firstDeclared choices).any (·.name == choice.name) then firstDeclared choices
      else firstDeclared choices ++ [choice] := by
  rw [firstDeclared, List.foldl_append]
  rfl

theorem names_firstDeclared (choices : List ChoiceDefinition) :
    (firstDeclared choices).map (·.name) = (choices.map (·.name)).eraseDups := by
  induction choices using List.reverseRecOn with
  | nil => rfl
  | append_singleton choices choice ih =>
      have known : (firstDeclared choices).any (·.name == choice.name) =
          (choices.map (·.name)).elem choice.name := by
        rw [Bool.eq_iff_iff, List.elem_iff, ← List.mem_eraseDups, ← ih]
        simp
      rw [firstDeclared_append_singleton, known, List.map_append, List.eraseDups_append, ← ih,
        List.map_singleton, List.removeAll, List.filter_cons, List.filter_nil]
      cases (choices.map (·.name)).elem choice.name with
      | false => exact List.map_append
      | true => exact (List.append_nil _).symm

theorem mem_names_firstDeclared {choices : List ChoiceDefinition} {name : String} :
    name ∈ (firstDeclared choices).map (·.name) ↔ name ∈ choices.map (·.name) := by
  rw [names_firstDeclared, List.mem_eraseDups]

theorem firstDeclared_eq_nil_iff {choices : List ChoiceDefinition} :
    firstDeclared choices = [] ↔ choices = [] := by
  rw [← List.map_eq_nil_iff (f := ChoiceDefinition.name), List.eq_nil_iff_forall_not_mem]
  simp only [mem_names_firstDeclared]
  rw [← List.eq_nil_iff_forall_not_mem, List.map_eq_nil_iff]

theorem find?_of_mem_firstDeclared {choices : List ChoiceDefinition} {choice : ChoiceDefinition}
    (member : choice ∈ firstDeclared choices) :
    choices.find? (·.name == choice.name) = some choice := by
  induction choices using List.reverseRecOn with
  | nil => simp [firstDeclared] at member
  | append_singleton choices last ih =>
      rw [firstDeclared_append_singleton] at member
      rw [List.find?_append]
      split at member
      · rw [ih member, Option.some_or]
      · rename_i fresh
        rcases List.mem_append.mp member with earlier | new
        · rw [ih earlier, Option.some_or]
        · rw [List.mem_singleton.mp new]
          have absent : choices.find? (·.name == last.name) = none := by
            rw [List.find?_eq_none]
            intro other present same
            apply fresh
            have known : last.name ∈ (firstDeclared choices).map (·.name) :=
              mem_names_firstDeclared.mpr (List.mem_map.mpr ⟨other, present, by simpa using same⟩)
            simpa using known
          rw [absent, Option.none_or]
          simp

theorem nodup_names_firstDeclared (choices : List ChoiceDefinition) :
    ((firstDeclared choices).map (·.name)).Nodup := by
  induction choices using List.reverseRecOn with
  | nil => exact List.nodup_nil
  | append_singleton choices last ih =>
      rw [firstDeclared_append_singleton]
      split
      · exact ih
      · rename_i fresh
        rw [List.map_append, List.nodup_append]
        refine ⟨ih, by simp, ?_⟩
        intro known member name isNew same
        rw [List.map_singleton, List.mem_singleton] at isNew
        apply fresh
        simpa [isNew ▸ same] using member

theorem firstDeclared_of_nodup {choices : List ChoiceDefinition}
    (distinct : (choices.map (·.name)).Nodup) : firstDeclared choices = choices := by
  induction choices using List.reverseRecOn with
  | nil => rfl
  | append_singleton choices last ih =>
      rw [List.map_append, List.nodup_append] at distinct
      have fresh : choices.any (·.name == last.name) = false := by
        rw [List.any_eq_false]
        intro other present same
        exact distinct.2.2 _ (List.mem_map_of_mem present) last.name (by simp) (by simpa using same)
      rw [firstDeclared_append_singleton, ih distinct.1, fresh]
      rfl

theorem Choice.ofDefinitions_eq_map (choices : List ChoiceDefinition) :
    ofDefinitions choices = (firstDeclared choices).map ofDefinition := by
  have step (known : List ChoiceDefinition) (choice : ChoiceDefinition) :
      addNew (known.map ofDefinition) choice =
        (if known.any (·.name == choice.name) then known else known ++ [choice]).map ofDefinition := by
    have same : (known.map ofDefinition).any (·.name == choice.name) =
        known.any (·.name == choice.name) := by
      rw [List.any_map]
      rfl
    rw [addNew, same]
    split
    · rfl
    · rw [List.map_append]
      rfl
  rw [ofDefinitions, firstDeclared, ← List.foldl_hom (List.map ofDefinition) step]
  rfl

theorem Choice.ofDefinitions_firstDeclared (choices : List ChoiceDefinition) :
    ofDefinitions (firstDeclared choices) = ofDefinitions choices := by
  rw [ofDefinitions_eq_map, ofDefinitions_eq_map,
    firstDeclared_of_nodup (nodup_names_firstDeclared choices)]

def PivotDefinition.declaredFirst (definition : PivotDefinition) : PivotDefinition :=
  { definition with choices := firstDeclared definition.choices }

theorem Pivot.ofDefinition_declaredFirst (definition : PivotDefinition) :
    ofDefinition definition.declaredFirst = ofDefinition definition := by
  simp only [ofDefinition, PivotDefinition.declaredFirst, Choice.ofDefinitions_firstDeclared]

end Variants
