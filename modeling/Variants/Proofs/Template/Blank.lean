import Variants.Proofs.Template.Rendering

/-!
Texts that render as nothing. In the known syntaxes nothing is written for no operand, as long as the
registry has no empty names and no empty conditions, so a text renders as nothing iff it is blank.
-/

namespace Variants

variable {Custom : Type} {registry : Registry}

/-- No text, or a text of blanks. -/
def Blank (text : Option String) : Prop :=
  ∀ words ∈ text, ∀ c ∈ words.toList, isBlank c = true

theorem blank_of_empty {text : Option String} (empty : text.filter (· != "") = none) : Blank text := by
  cases text with
  | none => simp [Blank]
  | some words =>
      have same : words = "" := by simpa using empty
      simp [Blank, same]

theorem blank_some_iff {words : String} : Blank (some words) ↔ tokenize words = [] := by
  rw [tokenize_eq_nil_iff]
  simp [Blank]

theorem splitTerms_eq_nil_iff {words : String} : splitTerms words = .ok [] ↔ tokenize words = [] := by
  rw [splitTerms_eq_ok_iff]
  constructor
  · rintro ⟨expression, derives, none⟩
    rw [← derives]
    exact expression.terms_eq_nil_iff.mp none
  · intro none
    exact ⟨.empty, none.symm, rfl⟩

/-- The names of the choices and the conditions of the built-in pivots can be seen. -/
structure Registry.Legible (registry : Registry) : Prop where
  names : ∀ pivot ∈ registry.pivots, ∀ choice ∈ pivot.choiceNames, choice ≠ ""
  conditions : ∀ pivot ∈ registry.pivots, ∀ choice ∈ pivot.choices, choice.condition ≠ some ""

theorem Example.registry_legible : Example.registry.Legible where
  names := by decide +kernel
  conditions := by decide +kernel

theorem Registry.Legible.conditionText_ne_empty (legible : registry.Legible) {pivot : Pivot}
    (present : pivot ∈ registry.pivots) {choice : String} (member : choice ∈ pivot.choiceNames) :
    pivot.conditionText choice ≠ "" := by
  rw [Pivot.conditionText]
  cases builtIn : pivot.isBuiltIn with
  | false => simp
  | true =>
      rcases exists_condition_of_isBuiltIn present builtIn member with ⟨condition, stated⟩
      rcases Option.bind_eq_some_iff.mp stated with ⟨declared, found, own⟩
      rw [stated, if_pos rfl, Option.getD_some]
      rintro rfl
      exact legible.conditions pivot present declared (List.mem_of_find?_eq_some found) own

variable [AtomWriter Custom]

/-- A template that writes something for every group, and for every choice of the registry. -/
structure Template.Legible (template : Template Custom) (registry : Registry) : Prop where
  grouped : ∀ inner, template.grouped inner ≠ .ok ""
  atom : ∀ scope, ∀ pivot ∈ registry.pivots, ∀ choice ∈ pivot.choiceNames,
    template.atom.text scope choice pivot ≠ .ok ""

theorem Template.legible_of_mem_builtIns (legible : registry.Legible) {template : Template Custom}
    (builtIn : template ∈ Template.builtIns Custom) : template.Legible registry where
  grouped inner := by
    rcases exists_grouped_of_mem_builtIns builtIn with ⟨before, after, framed, grouped⟩
    simp [grouped, framed]
  atom scope pivot present choice member := by
    rcases atom_of_mem_builtIns builtIn with byName | byCondition
    · simpa [byName, AtomStyle.text] using legible.names pivot present choice member
    · simpa [byCondition, AtomStyle.text] using legible.conditionText_ne_empty present member

variable {template : Template Custom}

theorem renderWord_ne_empty (legible : template.Legible registry) (scope word : String) :
    (renderWord registry template scope word).result ≠ .ok "" := by
  rw [renderWord]
  cases resolved : registry.resolve? word with
  | some found =>
      rcases Registry.exists_lookup_eq_ok (Registry.declares_of_resolve?_eq_some resolved) with
        ⟨pivot, present, known, member⟩
      have written := legible.atom scope pivot present found.2 member
      simpa [Traced.mark, known, Except.bind] using written
  | none =>
      cases constant : isConstantWord word with
      | false => simp
      | true =>
          have spelled : lowercase word = "true" ∨ lowercase word = "false" := by
            simpa [isConstantWord] using constant
          rcases spelled with isTrue | isFalse
          · simp [isTrue]
          · simp [isFalse]

theorem renderTerm_ne_empty (legible : template.Legible registry) (scope : String) (term : Term) :
    (renderTerm registry template scope term).result ≠ .ok "" := by
  cases term with
  | word lead word =>
      rw [renderTerm]
      exact renderWord_ne_empty legible scope word
  | group lead terms =>
      rw [renderTerm]
      split
      · simp
      · intro empty
        rw [Traced.result_bind] at empty
        rcases Outcome.bind_eq_ok_iff.mp empty with ⟨inner, _, grouped⟩
        exact legible.grouped inner grouped

theorem renderTerms_eq_empty_iff (legible : template.Legible registry) {scope : String} {first : Bool}
    {terms : List Term} :
    (renderTerms registry template scope first terms).result = .ok "" ↔ terms = [] := by
  cases terms with
  | nil => simp [renderTerms]
  | cons term rest =>
      have visible : (renderTerms registry template scope first (term :: rest)).result ≠ .ok "" := by
        intro empty
        rw [renderTerms, Traced.result_bind] at empty
        rcases Outcome.bind_eq_ok_iff.mp empty with ⟨text, written, later⟩
        rw [Traced.result_bind] at later
        rcases Outcome.bind_eq_ok_iff.mp later with ⟨after, _, joined⟩
        have parts := String.append_eq_empty_iff.mp (Except.ok.inj joined)
        have none := (String.append_eq_empty_iff.mp parts.1).2
        exact renderTerm_ne_empty legible scope term (none ▸ written)
      simp [visible]

theorem render_eq_empty_iff (legible : template.Legible registry) (scope : String)
    (text : Option String) : (render registry template scope text).result = .ok "" ↔ Blank text := by
  cases text with
  | none => simp [render, Blank]
  | some words =>
      rw [result_render, blank_some_iff, ← splitTerms_eq_nil_iff]
      constructor
      · intro empty
        rcases Outcome.bind_eq_ok_iff.mp empty with ⟨terms, split, nothing⟩
        rw [split, (renderTerms_eq_empty_iff legible).mp nothing]
      · intro split
        rw [split]
        exact (renderTerms_eq_empty_iff legible).mpr rfl

end Variants
