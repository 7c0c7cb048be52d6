import Variants.Document.Value
import Variants.Text.Lowercase

/-!
Pivots: the dimensions along which builds vary, each with its choices. A definition is what a
configuration declares; the pivot made of it knows its choices once each, and every choice by at least
one lowercase alias.
-/

namespace Variants

structure ChoiceDefinition where
  name : String
  description : Value := .null
  aliases : List String := []
  condition : Option String := none
  deriving BEq, Repr

structure PivotDefinition where
  name : String
  key : Value := .null
  description : Value := .null
  choices : List ChoiceDefinition := []
  deriving BEq, Repr

structure Choice where
  name : String
  description : Value
  aliases : List String
  condition : Option String
  deriving Repr

namespace Choice

def ofDefinition (definition : ChoiceDefinition) : Choice where
  name := definition.name
  description := definition.description.orElse (.text definition.name)
  aliases :=
    if definition.aliases.isEmpty then [lowercase definition.name]
    else definition.aliases.map lowercase
  condition := definition.condition

def matchesAlias (choice : Choice) (token : String) : Bool :=
  choice.aliases.contains (lowercase token)

def addNew (choices : List Choice) (definition : ChoiceDefinition) : List Choice :=
  if choices.any (·.name == definition.name) then choices else choices ++ [ofDefinition definition]

def ofDefinitions (definitions : List ChoiceDefinition) : List Choice :=
  definitions.foldl addNew []

theorem nodup_addNew {choices : List Choice} (distinct : (choices.map (·.name)).Nodup)
    (definition : ChoiceDefinition) : ((addNew choices definition).map (·.name)).Nodup := by
  rw [addNew]
  split
  · exact distinct
  · rename_i fresh
    rw [List.map_append, List.nodup_append]
    refine ⟨distinct, by simp, ?_⟩
    intro known member name isNew same
    simp only [List.map_cons, List.map_nil, List.mem_singleton] at isNew
    obtain ⟨choice, present, rfl⟩ := List.mem_map.mp member
    exact fresh (List.any_eq_true.mpr ⟨choice, present, by simp [same, isNew, ofDefinition]⟩)

theorem nodup_ofDefinitions (definitions : List ChoiceDefinition) :
    ((ofDefinitions definitions).map (·.name)).Nodup := by
  suffices grows : ∀ choices : List Choice, (choices.map (·.name)).Nodup →
      ((definitions.foldl addNew choices).map (·.name)).Nodup by
    exact grows [] List.nodup_nil
  induction definitions with
  | nil => exact fun _ distinct => distinct
  | cons definition rest ih => exact fun _ distinct => ih _ (nodup_addNew distinct definition)

end Choice

structure Pivot where
  name : String
  key : Value
  description : Value
  choices : List Choice
  names_distinct : (choices.map (·.name)).Nodup
  deriving Repr

namespace Pivot

def ofDefinition (definition : PivotDefinition) : Pivot where
  name := definition.name
  key := definition.key
  description := definition.description.orElse (.text definition.name)
  choices := Choice.ofDefinitions definition.choices
  names_distinct := Choice.nodup_ofDefinitions definition.choices

def choiceNames (pivot : Pivot) : List String :=
  pivot.choices.map (·.name)

def find? (pivot : Pivot) (name : String) : Option Choice :=
  pivot.choices.find? (·.name == name)

/-- A built-in pivot is tested by the conditions of its choices. -/
def isBuiltIn (pivot : Pivot) : Bool :=
  pivot.choices.any (·.condition.isSome)

/-- What a build compares with a choice: the key where one is given, else the name. -/
def conditionKey (pivot : Pivot) : Value :=
  pivot.key.orElse (.text pivot.name)

def withoutCondition (pivot : Pivot) : List String :=
  (pivot.choices.filter (·.condition.isNone)).map (·.name)

def shown (pivot : Pivot) : String :=
  "Pivot(name=" ++ quoted pivot.name ++ ", choices=" ++ quotedList pivot.choiceNames ++ ")"

end Pivot

end Variants
