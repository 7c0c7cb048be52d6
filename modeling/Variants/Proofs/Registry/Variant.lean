import Mathlib.Logic.Function.Basic
import Variants.Registry

/-!
Variants of a build: each has, for every pivot of a registry, one of the choices that the pivot
declares. What it has for other names does not matter.
-/

namespace Variants

namespace Registry

/-- Whether the registry has a pivot of that name with that choice. -/
def Declares (registry : Registry) (name choice : String) : Prop :=
  ∃ pivot ∈ registry.pivots, pivot.name = name ∧ choice ∈ pivot.choiceNames

def domain (registry : Registry) (name : String) : List String :=
  ((registry.get? name).map Pivot.choiceNames).getD []

variable {registry : Registry} {name choice : String}

theorem get?_eq_some_iff {pivot : Pivot} :
    registry.get? name = some pivot ↔ pivot ∈ registry.pivots ∧ pivot.name = name := by
  constructor
  · intro found
    have named := List.find?_some found
    exact ⟨List.mem_of_find?_eq_some found, by simpa using named⟩
  · intro given
    rcases given with ⟨member, rfl⟩
    rw [get?, List.find?_eq_some_iff_append]
    refine ⟨by simp, ?_⟩
    obtain ⟨before, after, split⟩ := List.append_of_mem member
    refine ⟨before, after, split, ?_⟩
    intro other earlier
    have distinct := registry.names_distinct
    rw [split, List.map_append, List.map_cons, List.nodup_append] at distinct
    have differs := distinct.2.2 other.name (List.mem_map_of_mem earlier) pivot.name
      List.mem_cons_self
    simpa using differs

theorem mem_domain : choice ∈ registry.domain name ↔ registry.Declares name choice := by
  constructor
  · intro member
    cases found : registry.get? name with
    | none => simp [domain, found] at member
    | some pivot =>
        obtain ⟨present, named⟩ := get?_eq_some_iff.mp found
        exact ⟨pivot, present, named, by simpa [domain, found] using member⟩
  · intro given
    rcases given with ⟨pivot, present, named, declared⟩
    have found := get?_eq_some_iff.mpr ⟨present, named⟩
    simpa [domain, found] using declared

theorem declares_name_iff {pivot : Pivot} (present : pivot ∈ registry.pivots) :
    registry.Declares pivot.name choice ↔ choice ∈ pivot.choiceNames := by
  have found := get?_eq_some_iff.mpr ⟨present, rfl⟩
  rw [← mem_domain, domain, found, Option.map_some, Option.getD_some]

theorem mem_names_of_mem_domain (declared : choice ∈ registry.domain name) :
    name ∈ registry.names := by
  obtain ⟨pivot, present, rfl, _⟩ := mem_domain.mp declared
  exact List.mem_map_of_mem present

theorem nodup_domain (registry : Registry) (name : String) : (registry.domain name).Nodup := by
  rw [domain]
  cases registry.get? name with
  | none => exact List.nodup_nil
  | some pivot => exact pivot.names_distinct

theorem get?_of_mem_names (known : name ∈ registry.names) :
    ∃ pivot, registry.get? name = some pivot := by
  obtain ⟨pivot, present, named⟩ := List.mem_map.mp known
  exact ⟨pivot, get?_eq_some_iff.mpr ⟨present, named⟩⟩

theorem choices_eq_ok (known : name ∈ registry.names) :
    registry.choices name = .ok (registry.domain name) := by
  obtain ⟨pivot, found⟩ := get?_of_mem_names known
  simp [choices, lookup, domain, found, Except.map]

theorem choices_eq_error (unknown : name ∉ registry.names) :
    registry.choices name = .error (.unknownPivot name) := by
  cases found : registry.get? name with
  | none => simp [choices, lookup, found, Except.map]
  | some pivot =>
      obtain ⟨present, rfl⟩ := get?_eq_some_iff.mp found
      exact absurd (List.mem_map_of_mem present) unknown

theorem domain_ne_nil (known : name ∈ registry.names) : registry.domain name ≠ [] := by
  obtain ⟨pivot, found⟩ := get?_of_mem_names known
  have present := (get?_eq_some_iff.mp found).1
  simpa [domain, found, Pivot.choiceNames] using (registry.sound pivot present).nonempty

theorem domain_length_pos (known : name ∈ registry.names) : 0 < (registry.domain name).length :=
  List.length_pos_iff.mpr (domain_ne_nil known)

/-- One declared choice for each pivot of the registry. -/
structure Variant (registry : Registry) where
  choice? : String → Option String
  declared : ∀ pivot ∈ registry.pivots,
    ∃ choice ∈ pivot.choiceNames, choice? pivot.name = some choice

namespace Variant

def chosen (variant : registry.Variant) (name : String) : String :=
  (variant.choice? name).getD ""

theorem choice?_eq (variant : registry.Variant) (known : name ∈ registry.names) :
    variant.choice? name = some (variant.chosen name) := by
  obtain ⟨pivot, present, rfl⟩ := List.mem_map.mp known
  obtain ⟨choice, _, has⟩ := variant.declared pivot present
  simp [chosen, has]

theorem chosen_mem_domain (variant : registry.Variant) (known : name ∈ registry.names) :
    variant.chosen name ∈ registry.domain name := by
  obtain ⟨pivot, present, rfl⟩ := List.mem_map.mp known
  obtain ⟨choice, member, has⟩ := variant.declared pivot present
  exact mem_domain.mpr ⟨pivot, present, rfl, by simpa [chosen, has] using member⟩

def ofChosen (chosen : String → String)
    (declared : ∀ name ∈ registry.names, chosen name ∈ registry.domain name) :
    registry.Variant where
  choice? name := some (chosen name)
  declared pivot present := by
    refine ⟨chosen pivot.name, ?_, rfl⟩
    have member := declared pivot.name (List.mem_map_of_mem present)
    have found := get?_eq_some_iff.mpr ⟨present, rfl⟩
    simpa [domain, found] using member

@[simp]
theorem chosen_ofChosen (chosen : String → String)
    (declared : ∀ name ∈ registry.names, chosen name ∈ registry.domain name) :
    (ofChosen chosen declared).chosen = chosen := rfl

def standard (registry : Registry) : registry.Variant :=
  ofChosen (fun name => (registry.domain name).headD "") <| by
    intro name known
    rw [List.headD_eq_head?_getD, List.head?_eq_some_head (domain_ne_nil known), Option.getD_some]
    exact List.head_mem _

def set (variant : registry.Variant) (name choice : String)
    (declared : choice ∈ registry.domain name) : registry.Variant :=
  ofChosen (Function.update variant.chosen name choice) <| by
    intro other known
    by_cases same : other = name
    · subst same
      simpa using declared
    · simpa [same] using variant.chosen_mem_domain known

@[simp]
theorem chosen_set (variant : registry.Variant) (name choice : String)
    (declared : choice ∈ registry.domain name) :
    (variant.set name choice declared).chosen = Function.update variant.chosen name choice := rfl

theorem exists_extension (pivots : List String) (chosen : String → String)
    (declared : ∀ name ∈ pivots, chosen name ∈ registry.domain name) :
    ∃ variant : registry.Variant, ∀ name ∈ pivots, variant.chosen name = chosen name := by
  refine ⟨ofChosen (fun name => if name ∈ pivots then chosen name
    else (standard registry).chosen name) ?_, ?_⟩
  · intro name known
    by_cases member : name ∈ pivots
    · simpa [member] using declared name member
    · simpa [member] using (standard registry).chosen_mem_domain known
  · intro name member
    simp [member]

end Variant

end Registry

end Variants
