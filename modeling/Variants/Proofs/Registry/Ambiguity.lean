import Mathlib.Data.List.Nodup
import Variants.Proofs.Registry.Acceptance

/-!
Ambiguities and what the names of choices stand for. A name stands for the first declaration that has it, so
a declaration is reported as ambiguous iff its name stands for another one.
-/

namespace Variants

/-- The pivot of the first declaration of a choice. -/
def owner? (declarations : List (String × String)) (choice : String) : Option String :=
  (declarations.find? (·.2 == choice)).map (·.1)

theorem owner?_append (declarations others : List (String × String)) (choice : String) :
    owner? (declarations ++ others) choice = (owner? declarations choice).or (owner? others choice) := by
  rw [owner?, List.find?_append, Option.map_or]
  rfl

theorem owner?_cons (pivot declared choice : String) (rest : List (String × String)) :
    owner? ((pivot, declared) :: rest) choice =
      if declared = choice then some pivot else owner? rest choice := by
  rw [owner?]
  split
  · rename_i same
    rw [List.find?_cons_of_pos (by simpa using same)]
    rfl
  · rename_i differs
    rw [List.find?_cons_of_neg (by simpa using differs)]
    rfl

theorem mem_of_owner?_eq_some {declarations : List (String × String)} {pivot choice : String}
    (owned : owner? declarations choice = some pivot) : (pivot, choice) ∈ declarations := by
  rcases Option.map_eq_some_iff.mp owned with ⟨⟨first, name⟩, found, rfl⟩
  have named : name = choice := by simpa using List.find?_some found
  exact named ▸ List.mem_of_find?_eq_some found

/-- The owners of names are those of the declarations so far. -/
def OwnersOf (before owners : List (String × String)) : Prop :=
  ∀ choice, owners.lookup choice = owner? before choice

theorem ownersOf_nil : OwnersOf [] [] := fun _ => rfl

namespace OwnersOf

variable {before owners : List (String × String)} {pivot choice : String}

theorem keep (known : OwnersOf before owners) {owner : String}
    (owned : owners.lookup choice = some owner) : OwnersOf (before ++ [(pivot, choice)]) owners := by
  intro other
  rw [owner?_append, ← known other, owner?_cons]
  split
  · rename_i same
    rw [← same, owned, Option.some_or]
  · exact (Option.or_none).symm

theorem add (known : OwnersOf before owners) (free : owners.lookup choice = none) :
    OwnersOf (before ++ [(pivot, choice)]) ((choice, pivot) :: owners) := by
  intro other
  rw [owner?_append, ← known other, owner?_cons, List.lookup_cons]
  by_cases same : choice = other
  · rw [← same, beq_self_eq_true, free, Option.none_or, if_pos rfl]
  · rw [beq_false_of_ne (Ne.symm same), if_neg same]
    exact (Option.or_none).symm

end OwnersOf

def Ambiguity.declaration (ambiguity : Ambiguity) : String × String :=
  (ambiguity.pivot, ambiguity.choice)

theorem declarations_ambiguitiesFrom {before owners rest : List (String × String)}
    (known : OwnersOf before owners) (distinct : (before ++ rest).Nodup) :
    (ambiguitiesFrom owners rest).map Ambiguity.declaration =
      rest.filter fun declaration => owner? (before ++ rest) declaration.2 ≠ some declaration.1 := by
  induction rest generalizing before owners with
  | nil => rfl
  | cons declaration rest ih =>
      rcases declaration with ⟨pivot, choice⟩
      have extended : before ++ (pivot, choice) :: rest = before ++ [(pivot, choice)] ++ rest := by simp
      have fresh : (pivot, choice) ∉ before := fun earlier =>
        (List.nodup_append.mp distinct).2.2 _ earlier _ List.mem_cons_self rfl
      rw [ambiguitiesFrom, List.filter_cons]
      cases owned : owners.lookup choice with
      | some owner =>
          have first : owner? before choice = some owner := known choice ▸ owned
          have differs : owner ≠ pivot := fun same => fresh (same ▸ mem_of_owner?_eq_some first)
          have reported : owner? (before ++ (pivot, choice) :: rest) choice ≠ some pivot := by
            rw [owner?_append, first, Option.some_or]
            simpa using differs
          rw [if_pos (by simpa using reported), List.map_cons, extended,
            ih (known.keep owned) (extended ▸ distinct)]
          rfl
      | none =>
          have own : owner? (before ++ (pivot, choice) :: rest) choice = some pivot := by
            rw [owner?_append, ← known choice, owned, Option.none_or, owner?_cons, if_pos rfl]
          rw [if_neg (by simpa using own), extended, ih (known.add owned) (extended ▸ distinct)]

theorem owner_of_mem_ambiguitiesFrom {before owners rest : List (String × String)}
    (known : OwnersOf before owners) {ambiguity : Ambiguity}
    (reported : ambiguity ∈ ambiguitiesFrom owners rest) :
    owner? (before ++ rest) ambiguity.choice = some ambiguity.owner := by
  induction rest generalizing before owners with
  | nil => exact absurd reported List.not_mem_nil
  | cons declaration rest ih =>
      rcases declaration with ⟨pivot, choice⟩
      have extended : before ++ (pivot, choice) :: rest = before ++ [(pivot, choice)] ++ rest := by simp
      rw [ambiguitiesFrom] at reported
      cases owned : owners.lookup choice with
      | some owner =>
          rw [owned] at reported
          rcases List.mem_cons.mp reported with rfl | later
          · rw [owner?_append, ← known choice, owned, Option.some_or]
          · rw [extended]
            exact ih (known.keep owned) later
      | none =>
          rw [owned] at reported
          rw [extended]
          exact ih (known.add owned) reported

namespace Registry

variable {registry : Registry}

theorem find?_declarations (pivots : List Pivot) (token : String) :
    (pivots.flatMap fun pivot => pivot.choiceNames.map fun choice => (pivot.name, choice)).find?
        (·.2 == token) =
      (pivots.find? fun pivot => pivot.choiceNames.contains token).map fun pivot => (pivot.name, token) := by
  induction pivots with
  | nil => rfl
  | cons pivot rest ih =>
      rw [List.flatMap_cons, List.find?_append, ih, List.find?_map]
      cases found : pivot.choiceNames.find? ((·.2 == token) ∘ fun choice => (pivot.name, choice)) with
      | none =>
          have absent : pivot.choiceNames.contains token = false := by
            rw [← Bool.not_eq_true, List.contains_iff_mem]
            intro member
            exact List.find?_eq_none.mp found token member (beq_self_eq_true token)
          rw [List.find?_cons, absent]
          rfl
      | some choice =>
          have named : choice = token := by simpa using List.find?_some found
          have member : pivot.choiceNames.contains token = true :=
            List.contains_iff_mem.mpr (named ▸ List.mem_of_find?_eq_some found)
          rw [List.find?_cons, member, named]
          rfl

theorem byName?_eq_owner? (registry : Registry) (token : String) :
    registry.byName? token = (owner? registry.declarations token).map fun pivot => (pivot, token) := by
  rw [byName?, owner?, declarations, find?_declarations, Option.map_map, Option.map_map]
  rfl

theorem resolve?_eq_owner? {pivot choice : String} (declared : (pivot, choice) ∈ registry.declarations) :
    registry.resolve? choice = (owner? registry.declarations choice).map fun owner => (owner, choice) := by
  have owned : (owner? registry.declarations choice).isSome := by
    rw [owner?, Option.isSome_map, List.find?_isSome]
    exact ⟨(pivot, choice), declared, beq_self_eq_true choice⟩
  rcases Option.isSome_iff_exists.mp owned with ⟨owner, first⟩
  rw [resolve?, byName?_eq_owner?, first]
  rfl

theorem mem_declarations {declaration : String × String} :
    declaration ∈ registry.declarations ↔ registry.Declares declaration.1 declaration.2 := by
  rw [declarations, List.mem_flatMap]
  constructor
  · rintro ⟨pivot, present, member⟩
    rcases List.mem_map.mp member with ⟨choice, declared, rfl⟩
    exact ⟨pivot, present, rfl, declared⟩
  · rintro ⟨pivot, present, named, declared⟩
    exact ⟨pivot, present, List.mem_map.mpr ⟨declaration.2, declared, by rw [named]⟩⟩

theorem nodup_declarations (registry : Registry) : registry.declarations.Nodup := by
  rw [declarations, List.nodup_flatMap]
  constructor
  · intro pivot _
    exact pivot.names_distinct.map (fun _ _ same => (Prod.mk.inj same).2)
  · have distinct := registry.names_distinct
    rw [List.Nodup, List.pairwise_map] at distinct
    refine distinct.imp ?_
    intro one other differs declaration member memberToo
    rcases List.mem_map.mp member with ⟨choice, _, rfl⟩
    rcases List.mem_map.mp memberToo with ⟨_, _, same⟩
    exact differs (Prod.mk.inj same).1.symm

theorem declarations_ambiguities (registry : Registry) :
    registry.ambiguities.map Ambiguity.declaration =
      registry.declarations.filter fun declaration =>
        registry.resolve? declaration.2 ≠ some declaration := by
  have distinct : ([] ++ registry.declarations).Nodup := registry.nodup_declarations
  rw [ambiguities, declarations_ambiguitiesFrom ownersOf_nil distinct]
  apply List.filter_congr
  intro declaration declared
  rcases declaration with ⟨pivot, choice⟩
  rw [resolve?_eq_owner? declared, List.nil_append]
  cases owner? registry.declarations choice <;> simp

theorem resolve?_of_reported {ambiguity : Ambiguity} (reported : ambiguity ∈ registry.ambiguities) :
    registry.resolve? ambiguity.choice = some (ambiguity.owner, ambiguity.choice) := by
  have declared : ambiguity.declaration ∈ registry.declarations := by
    have listed := List.mem_map_of_mem (f := Ambiguity.declaration) reported
    rw [declarations_ambiguities] at listed
    exact (List.mem_filter.mp listed).1
  have owned : owner? registry.declarations ambiguity.choice = some ambiguity.owner :=
    owner_of_mem_ambiguitiesFrom ownersOf_nil reported
  rw [resolve?_eq_owner? declared, owned]
  rfl

theorem ambiguities_eq_nil_iff (registry : Registry) :
    registry.ambiguities = [] ↔
      ∀ declaration ∈ registry.declarations, registry.resolve? declaration.2 = some declaration := by
  rw [← List.map_eq_nil_iff (f := Ambiguity.declaration), declarations_ambiguities, List.filter_eq_nil_iff]
  simp only [ne_eq, decide_not, Bool.not_eq_true', decide_eq_false_iff_not, not_not]

end Registry

/-- What definitions declare: every pivot with each of its choices, in order. -/
def declared (definitions : List PivotDefinition) : List (String × String) :=
  definitions.flatMap fun definition =>
    (definition.choices.map (·.name)).eraseDups.map fun choice => (definition.name, choice)

namespace Registry

theorem flatMap_inhabited {α : Type} {f : PivotDefinition → List α}
    (silent : ∀ definition, definition.choices = [] → f definition = [])
    (definitions : List PivotDefinition) : (inhabited definitions).flatMap f = definitions.flatMap f := by
  induction definitions with
  | nil => rfl
  | cons definition rest ih =>
      rw [inhabited, List.filter_cons, ← inhabited, List.flatMap_cons, ← ih]
      cases choices : definition.choices with
      | nil => rw [silent definition choices]; rfl
      | cons choice others => rfl

theorem declarations_of_build {definitions : List PivotDefinition} {registry : Registry}
    (accepted : build definitions = .ok registry) : registry.declarations = declared definitions := by
  have silent (definition : PivotDefinition) (none : definition.choices = []) :
      ((definition.choices.map (·.name)).eraseDups.map fun choice => (definition.name, choice)) = [] := by
    rw [none]
    rfl
  rw [declarations, pivots_of_build accepted, List.flatMap_map, declared, ← flatMap_inhabited silent]
  simp only [Pivot.choiceNames_ofDefinition]
  rfl

/-- Of the declarations that definitions make, each one whose name stands for another choice is reported, once
and in order, and nothing else is. What is named as the owner of the choice is what its name stands for. -/
theorem ambiguities_report_unresolved {definitions : List PivotDefinition} {registry : Registry}
    (accepted : build definitions = .ok registry) :
    (declared definitions).Nodup ∧
      registry.ambiguities.map Ambiguity.declaration =
        (declared definitions).filter (fun declaration =>
          registry.resolve? declaration.2 ≠ some declaration) ∧
      (∀ ambiguity ∈ registry.ambiguities,
        registry.resolve? ambiguity.choice = some (ambiguity.owner, ambiguity.choice)) ∧
      (registry.ambiguities = [] ↔
        ∀ declaration ∈ declared definitions, registry.resolve? declaration.2 = some declaration) := by
  rw [← declarations_of_build accepted]
  exact ⟨registry.nodup_declarations, declarations_ambiguities registry, fun _ => resolve?_of_reported,
    ambiguities_eq_nil_iff registry⟩

end Registry

def Example.overlapping : List PivotDefinition :=
  [{ name := "First", choices := [{ name := "one", aliases := ["two"] }, { name := "shared" }] },
    { name := "Second", choices := [{ name := "two" }, { name := "shared" }] },
    { name := "Third", choices := [{ name := "shared" }, { name := "shared" }, { name := "three" }] }]

namespace Registry

theorem ambiguities_report_unresolved_of_example :
    ∃ registry, build Example.overlapping = .ok registry ∧
      registry.ambiguities = [⟨"shared", "First", "Second"⟩, ⟨"shared", "First", "Third"⟩] ∧
      (declared Example.overlapping).Nodup ∧
      registry.ambiguities.map Ambiguity.declaration =
        (declared Example.overlapping).filter (fun declaration =>
          registry.resolve? declaration.2 ≠ some declaration) ∧
      registry.resolve? "shared" = some ("First", "shared") := by
  have built : (build Example.overlapping).toOption.any (fun registry =>
      registry.ambiguities == [⟨"shared", "First", "Second"⟩, ⟨"shared", "First", "Third"⟩]) = true := by
    decide +kernel
  rcases (Option.any_eq_true _ _).mp built with ⟨registry, found, reports⟩
  have accepted := Outcome.toOption_eq_some_iff.mp found
  have reported := eq_of_beq reports
  rcases ambiguities_report_unresolved accepted with ⟨distinct, exactly, owners, _⟩
  refine ⟨registry, accepted, reported, distinct, exactly, ?_⟩
  exact owners ⟨"shared", "First", "Second"⟩ (by rw [reported]; exact List.mem_cons_self)

end Registry

end Variants
