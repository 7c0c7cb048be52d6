import Variants.Error
import Variants.Pivot

/-!
The registry: the known pivots, in order of declaration. A token names a choice by its exact name
before it names one by an alias, and an earlier pivot before a later one.
-/

namespace Variants

inductive RegistryError
  | duplicatePivot (name : String)
  | partialConditions (pivot : String) (missing : List String)
  deriving DecidableEq, Repr

def RegistryError.message : RegistryError → String
  | duplicatePivot name => "Duplicate pivot name: " ++ name
  | partialConditions pivot missing =>
    "Pivot '" ++ pivot ++ "' is built-in but choices " ++ quotedList missing ++
      " have no condition"

/-- A pivot with at least one choice, of which all or none have a condition. -/
structure Pivot.Sound (pivot : Pivot) : Prop where
  nonempty : pivot.choices ≠ []
  conditions : pivot.isBuiltIn → pivot.withoutCondition = []

structure Registry where
  pivots : List Pivot
  names_distinct : (pivots.map (·.name)).Nodup
  sound : ∀ pivot ∈ pivots, pivot.Sound
  deriving Repr

namespace Registry

def empty : Registry := ⟨[], by simp, by simp⟩

def add (registry : Registry) (pivot : Pivot) (inhabited : pivot.choices ≠ []) :
    Except RegistryError Registry :=
  if taken : pivot.name ∈ registry.pivots.map (·.name) then .error (.duplicatePivot pivot.name)
  else if conditions : pivot.isBuiltIn → pivot.withoutCondition = [] then
    .ok {
      pivots := registry.pivots ++ [pivot]
      names_distinct := by
        rw [List.map_append, List.nodup_append]
        refine ⟨registry.names_distinct, by simp, ?_⟩
        intro known member name isNew same
        simp only [List.map_cons, List.map_nil, List.mem_singleton] at isNew
        exact taken (isNew ▸ same ▸ member)
      sound := by
        intro other member
        rcases List.mem_append.mp member with old | new
        · exact registry.sound other old
        · rw [List.mem_singleton.mp new]
          exact ⟨inhabited, conditions⟩ }
  else .error (.partialConditions pivot.name pivot.withoutCondition)

def addDefinition (registry : Registry) (definition : PivotDefinition) :
    Except RegistryError Registry :=
  let pivot := Pivot.ofDefinition definition
  if inhabited : pivot.choices = [] then .ok registry else registry.add pivot inhabited

def build (definitions : List PivotDefinition) : Except RegistryError Registry :=
  definitions.foldlM addDefinition empty

def names (registry : Registry) : List String :=
  registry.pivots.map (·.name)

def get? (registry : Registry) (name : String) : Option Pivot :=
  registry.pivots.find? (·.name == name)

def lookup (registry : Registry) (name : String) : Except Error Pivot :=
  match registry.get? name with
  | some pivot => .ok pivot
  | none => .error (.unknownPivot name)

def choices (registry : Registry) (name : String) : Except Error (List String) :=
  (registry.lookup name).map Pivot.choiceNames

def byName? (registry : Registry) (token : String) : Option (String × String) :=
  (registry.pivots.find? fun pivot => pivot.choiceNames.contains token).map fun pivot =>
    (pivot.name, token)

def byAlias? (registry : Registry) (token : String) : Option (String × String) :=
  registry.pivots.findSome? fun pivot =>
    (pivot.choices.find? (·.matchesAlias token)).map fun choice => (pivot.name, choice.name)

/-- The pivot and the choice that a token names. -/
def resolve? (registry : Registry) (token : String) : Option (String × String) :=
  (registry.byName? token).or (registry.byAlias? token)

def resolve (registry : Registry) (token : String) : Except Error (String × String) :=
  match registry.resolve? token with
  | some found => .ok found
  | none => .error (.unresolvedChoice token)

def shown (registry : Registry) : String :=
  "PivotRegistry(" ++ quotedList registry.names ++ ")"

end Registry

/-- A choice that `pivot` declares after `owner`, to which its name belongs. -/
structure Ambiguity where
  choice : String
  owner : String
  pivot : String
  deriving DecidableEq, Repr

def Ambiguity.message (a : Ambiguity) : String :=
  "Choice '" ++ a.choice ++ "' is declared by pivots '" ++ a.owner ++ "' and '" ++ a.pivot ++
    "'; expressions resolve it to '" ++ a.owner ++ "'"

def ambiguitiesFrom (owners : List (String × String)) : List (String × String) → List Ambiguity
  | [] => []
  | (pivot, choice) :: rest =>
    match owners.lookup choice with
    | some owner => ⟨choice, owner, pivot⟩ :: ambiguitiesFrom owners rest
    | none => ambiguitiesFrom ((choice, pivot) :: owners) rest

namespace Registry

def declarations (registry : Registry) : List (String × String) :=
  registry.pivots.flatMap fun pivot => pivot.choiceNames.map fun choice => (pivot.name, choice)

def ambiguities (registry : Registry) : List Ambiguity :=
  ambiguitiesFrom [] registry.declarations

end Registry

end Variants
