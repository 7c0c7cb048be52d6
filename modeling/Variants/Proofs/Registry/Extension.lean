import Variants.Proofs.Condition.Words
import Variants.Proofs.Locality
import Variants.Proofs.Registry.Acceptance

/-!
Registries with further pivots. What a token stands for stays the same, unless it was an alias and a further
pivot has a choice of that name. So does what a text of such tokens says, and its selection.
-/

namespace Variants

namespace Condition

variable {first second : Registry}

mutual

theorem ofTerm_congr {term : Term} (same : ∀ word ∈ term.words, second.resolve? word = first.resolve? word) :
    ofTerm second term = ofTerm first term := by
  cases term with
  | word lead text =>
      rw [ofTerm, ofTerm, ofWord, ofWord, same text List.mem_cons_self]
  | group lead terms => rw [ofTerm, ofTerm, ofTerms_congr same none]

theorem ofTerms_congr {terms : List Term}
    (same : ∀ word ∈ levelWords terms, second.resolve? word = first.resolve? word)
    (before : Option Condition) : ofTerms second before terms = ofTerms first before terms := by
  cases terms with
  | nil => rw [ofTerms, ofTerms]
  | cons term rest =>
      rw [levelWords, List.forall_mem_append] at same
      rw [ofTerms, ofTerms, ofTerm_congr same.1]
      exact congrArg _ (funext fun _ => ofTerms_congr same.2 _)

end

theorem parse_congr {text : String} (same : ∀ word ∈ words text, second.resolve? word = first.resolve? word) :
    parse second (some text) = parse first (some text) := by
  cases split : splitTerms text with
  | error cause => rw [parse, parse, split]; rfl
  | ok terms =>
      rw [← levelWords_eq_words split] at same
      rw [parse, parse, split]
      exact ofTerms_congr same none

theorem exists_parse_eq_ok_of_resolves {text : String} {terms : List Term} (split : splitTerms text = .ok terms)
    (resolves : ∀ word ∈ words text, (first.resolve? word).isSome) :
    ∃ condition, parse first (some text) = .ok condition := by
  have known : first.unresolved? (levelWords terms) = none := by
    apply Registry.unresolved?_eq_none
    intro word member
    rw [levelWords_eq_words split] at member
    rw [Registry.unknown, Option.isNone_eq_false_iff.mpr (resolves word member), Bool.false_and]
  have fails := failsWith_ofTerms first none terms
  rw [known] at fails
  rw [parse, split]
  exact fails.exists_eq_ok

end Condition

/-- One of the pivots has a choice of that name. -/
def NamesChoice (pivots : List Pivot) (token : String) : Prop :=
  ∃ pivot ∈ pivots, token ∈ pivot.choiceNames

namespace Registry

/-- The pivots of the larger registry are those of the other one and then the further ones. -/
def Extends (larger registry : Registry) (further : List Pivot) : Prop :=
  larger.pivots = registry.pivots ++ further

theorem extends_of_build {definitions more : List PivotDefinition} {registry larger : Registry}
    (accepted : build definitions = .ok registry) (acceptedToo : build (definitions ++ more) = .ok larger) :
    larger.Extends registry ((inhabited more).map Pivot.ofDefinition) := by
  rw [Extends, pivots_of_build accepted, pivots_of_build acceptedToo, inhabited, List.filter_append,
    List.map_append]
  rfl

theorem byName?_isSome_iff {registry : Registry} {token : String} :
    (registry.byName? token).isSome ↔ NamesChoice registry.pivots token := by
  rw [byName?, Option.isSome_map, List.find?_isSome]
  simp only [List.contains_iff_mem]
  rfl

namespace Extends

variable {larger registry : Registry} {further : List Pivot} {token : String}

theorem byName?_eq (extended : larger.Extends registry further) (token : String) :
    larger.byName? token = (registry.byName? token).or
      ((further.find? fun pivot => pivot.choiceNames.contains token).map fun pivot => (pivot.name, token)) := by
  rw [byName?, extended, List.find?_append, Option.map_or]
  rfl

theorem byAlias?_eq (extended : larger.Extends registry further) (token : String) :
    larger.byAlias? token = (registry.byAlias? token).or
      (further.findSome? fun pivot =>
        (pivot.choices.find? (·.matchesAlias token)).map fun choice => (pivot.name, choice.name)) := by
  rw [byAlias?, extended, List.findSome?_append]
  rfl

theorem resolve?_of_named (extended : larger.Extends registry further)
    (named : NamesChoice registry.pivots token) : larger.resolve? token = registry.resolve? token := by
  rcases Option.isSome_iff_exists.mp (byName?_isSome_iff.mpr named) with ⟨found, byName⟩
  rw [resolve?, resolve?, extended.byName?_eq, byName, Option.some_or]
  rfl

theorem resolve?_of_free (extended : larger.Extends registry further) (free : ¬ NamesChoice further token)
    {found : String × String} (resolves : registry.resolve? token = some found) :
    larger.resolve? token = some found := by
  have none : (further.find? fun pivot => pivot.choiceNames.contains token) = none := by
    rw [List.find?_eq_none]
    intro pivot present member
    exact free ⟨pivot, present, List.contains_iff_mem.mp member⟩
  rw [resolve?, extended.byName?_eq, none, Option.map_none, Option.or_none, extended.byAlias?_eq,
    ← Option.or_assoc]
  rw [resolve?] at resolves
  rw [resolves, Option.some_or]

theorem resolve?_of_taken (extended : larger.Extends registry further)
    (unnamed : ¬ NamesChoice registry.pivots token) (taken : NamesChoice further token) :
    ∃ pivot ∈ further, larger.resolve? token = some (pivot.name, token) := by
  have none : registry.byName? token = none := by
    rw [← Option.not_isSome_iff_eq_none, byName?_isSome_iff]
    exact unnamed
  have some : (further.find? fun pivot => pivot.choiceNames.contains token).isSome := by
    rw [List.find?_isSome]
    rcases taken with ⟨pivot, present, member⟩
    exact ⟨pivot, present, List.contains_iff_mem.mpr member⟩
  rcases Option.isSome_iff_exists.mp some with ⟨pivot, found⟩
  refine ⟨pivot, List.mem_of_find?_eq_some found, ?_⟩
  rw [resolve?, extended.byName?_eq, none, Option.none_or, found]
  rfl

theorem name_ne (extended : larger.Extends registry further) {name : String} (known : name ∈ registry.names)
    {pivot : Pivot} (present : pivot ∈ further) : name ≠ pivot.name := by
  have distinct := larger.names_distinct
  rw [extended, List.map_append, List.nodup_append] at distinct
  exact distinct.2.2 name known pivot.name (List.mem_map_of_mem present)

/-- A token keeps what it stands for iff it is the name of a choice already or no further choice has that
name. -/
theorem resolve?_eq_some_iff (extended : larger.Extends registry further) {found : String × String}
    (resolves : registry.resolve? token = some found) :
    larger.resolve? token = some found ↔
      NamesChoice registry.pivots token ∨ ¬ NamesChoice further token := by
  constructor
  · intro kept
    by_contra changed
    rw [not_or, not_not] at changed
    rcases extended.resolve?_of_taken changed.1 changed.2 with ⟨pivot, present, moved⟩
    rcases declares_of_resolve?_eq_some resolves with ⟨declaring, isPivot, named, _⟩
    rw [kept] at moved
    have known : found.1 ∈ registry.names := named ▸ List.mem_map_of_mem isPivot
    exact extended.name_ne known present (congrArg Prod.fst (Option.some.inj moved))
  · rintro (named | free)
    · rw [extended.resolve?_of_named named, resolves]
    · exact extended.resolve?_of_free free resolves

theorem sameChoices (extended : larger.Extends registry further) {name : String}
    (known : name ∈ registry.names) : registry.SameChoices larger name := by
  intro choice
  constructor
  · rintro ⟨pivot, present, named, member⟩
    exact ⟨pivot, extended ▸ List.mem_append_left further present, named, member⟩
  · rintro ⟨pivot, present, rfl, member⟩
    rw [extended] at present
    rcases List.mem_append.mp present with old | new
    · exact ⟨pivot, old, rfl, member⟩
    · exact absurd rfl (extended.name_ne known new)

end Extends

end Registry

/-- One of the definitions declares a choice of that name. -/
def DeclaresChoice (definitions : List PivotDefinition) (token : String) : Prop :=
  ∃ definition ∈ definitions, ∃ choice ∈ definition.choices, choice.name = token

instance (definitions : List PivotDefinition) (token : String) :
    Decidable (DeclaresChoice definitions token) :=
  inferInstanceAs (Decidable (∃ definition ∈ definitions, ∃ choice ∈ definition.choices, choice.name = token))

namespace Registry

theorem namesChoice_inhabited_iff {definitions : List PivotDefinition} {token : String} :
    NamesChoice ((inhabited definitions).map Pivot.ofDefinition) token ↔ DeclaresChoice definitions token := by
  constructor
  · rintro ⟨pivot, present, member⟩
    rcases List.mem_map.mp present with ⟨definition, listed, rfl⟩
    rw [Pivot.choiceNames_ofDefinition, List.mem_eraseDups] at member
    rcases List.mem_map.mp member with ⟨choice, isChoice, named⟩
    exact ⟨definition, (List.mem_filter.mp listed).1, choice, isChoice, named⟩
  · rintro ⟨definition, listed, choice, isChoice, named⟩
    have chosen : definition ∈ inhabited definitions :=
      List.mem_filter.mpr ⟨listed, by simpa using List.ne_nil_of_mem isChoice⟩
    refine ⟨Pivot.ofDefinition definition, List.mem_map_of_mem chosen, ?_⟩
    rw [Pivot.choiceNames_ofDefinition, List.mem_eraseDups]
    exact List.mem_map.mpr ⟨choice, isChoice, named⟩

/-- Under a registry with further definitions, a token stands for what it stood for before iff it was the name
of a choice or does not become one. A text of tokens that do not become names states the same condition, or is
refused for the same reason, and the condition has the same selection. -/
theorem further_definitions_keep_meaning {definitions more : List PivotDefinition}
    {registry larger : Registry} (accepted : build definitions = .ok registry)
    (acceptedToo : build (definitions ++ more) = .ok larger) :
    (∀ token found, registry.resolve? token = some found →
        (larger.resolve? token = some found ↔
          DeclaresChoice definitions token ∨ ¬ DeclaresChoice more token)) ∧
      ∀ text, (∀ word ∈ words text, (registry.resolve? word).isSome ∧ ¬ DeclaresChoice more word) →
        Condition.parse larger (some text) = Condition.parse registry (some text) ∧
          ∀ terms, splitTerms text = .ok terms →
            ∃ condition selection, Condition.parse registry (some text) = .ok condition ∧
              (condition.evaluate registry).result = .ok selection ∧
              (condition.evaluate larger).result = .ok selection := by
  have extended := extends_of_build accepted acceptedToo
  have survives (token : String) (found : String × String) (resolves : registry.resolve? token = some found) :
      larger.resolve? token = some found ↔
        DeclaresChoice definitions token ∨ ¬ DeclaresChoice more token := by
    rw [extended.resolve?_eq_some_iff resolves, pivots_of_build accepted, namesChoice_inhabited_iff,
      namesChoice_inhabited_iff]
  refine ⟨survives, ?_⟩
  intro text settled
  have same : ∀ word ∈ words text, larger.resolve? word = registry.resolve? word := by
    intro word member
    rcases settled word member with ⟨resolves, free⟩
    rcases Option.isSome_iff_exists.mp resolves with ⟨found, stands⟩
    rw [stands]
    exact (survives word found stands).mpr (.inr free)
  refine ⟨Condition.parse_congr same, ?_⟩
  intro terms split
  rcases Condition.exists_parse_eq_ok_of_resolves split fun word member => (settled word member).1 with
    ⟨condition, read⟩
  have declared := Condition.declared_of_parse_eq_ok read
  rcases Condition.evaluate_eq_of_sameChoices registry larger condition declared fun pivot member =>
      extended.sameChoices (Condition.mem_names_of_mem_pivots declared member) with
    ⟨selection, result, resultToo, _⟩
  exact ⟨condition, selection, read, result, resultToo⟩

end Registry

def Example.further : List PivotDefinition :=
  [{ name := "Sanitizer", choices := [{ name := "none", aliases := ["x86", "Debug"] }, { name := "woa" }] }]

namespace Registry

theorem further_definitions_keep_meaning_of_example :
    let text := "!(x86 | static) & Debug"
    ∃ larger, build Example.definitions = .ok Example.registry ∧
      build (Example.definitions ++ Example.further) = .ok larger ∧
      Example.registry.resolve? "x86" = some ("Platform", "Win32") ∧
      larger.resolve? "x86" = some ("Platform", "Win32") ∧
      Example.registry.resolve? "woa" = some ("Platform", "ARM") ∧
      larger.resolve? "woa" ≠ some ("Platform", "ARM") ∧
      (∀ word ∈ words text,
        (Example.registry.resolve? word).isSome ∧ ¬ DeclaresChoice Example.further word) ∧
      Condition.parse larger (some text) = Condition.parse Example.registry (some text) ∧
      ∃ terms condition selection, splitTerms text = .ok terms ∧
        Condition.parse Example.registry (some text) = .ok condition ∧
        (condition.evaluate Example.registry).result = .ok selection ∧
        (condition.evaluate larger).result = .ok selection := by
  intro text
  have built : (build (Example.definitions ++ Example.further)).toOption.isSome = true := by decide +kernel
  rcases Option.isSome_iff_exists.mp built with ⟨larger, found⟩
  have accepted := Outcome.toOption_eq_some_iff.mp found
  have platform : Example.registry.resolve? "x86" = some ("Platform", "Win32") := by decide +kernel
  have arm : Example.registry.resolve? "woa" = some ("Platform", "ARM") := by decide +kernel
  have settled : ∀ word ∈ words text,
      (Example.registry.resolve? word).isSome ∧ ¬ DeclaresChoice Example.further word := by decide +kernel
  have divided : (splitTerms text).toOption.isSome = true := by decide +kernel
  rcases Option.isSome_iff_exists.mp divided with ⟨terms, split⟩
  rcases further_definitions_keep_meaning Example.build_definitions accepted with ⟨survives, texts⟩
  rcases texts text settled with ⟨same, evaluated⟩
  have splits := Outcome.toOption_eq_some_iff.mp split
  rcases evaluated terms splits with ⟨condition, selection, read, result, resultToo⟩
  refine ⟨larger, Example.build_definitions, accepted, platform, ?_, arm, ?_, settled, same, terms, condition,
    selection, splits, read, result, resultToo⟩
  · exact (survives "x86" _ platform).mpr (.inr (by decide +kernel))
  · exact mt (survives "woa" _ arm).mp (by decide +kernel)

end Registry

end Variants
