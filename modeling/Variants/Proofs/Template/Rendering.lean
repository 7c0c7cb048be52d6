import Variants.Proofs.Condition.Words
import Variants.Proofs.Template.Pattern
import Variants.Proofs.Traced

/-!
What rendering a text gives. To render a text is to render its terms. In a template of which neither
groups nor choices can fail, rendering fails at the first word that names nothing, and the known
templates are of this sort.
-/

namespace Variants

variable {Custom : Type}

theorem Pivot.Sound.isSome_condition {pivot : Pivot} (sound : pivot.Sound) (builtIn : pivot.isBuiltIn) :
    ∀ choice ∈ pivot.choices, choice.condition.isSome := by
  have complete := sound.conditions builtIn
  rw [Pivot.withoutCondition, List.map_eq_nil_iff, List.filter_eq_nil_iff] at complete
  intro choice member
  simpa [Option.isSome_iff_ne_none] using complete choice member

namespace Registry

variable {registry : Registry}

theorem exists_lookup_eq_ok {name choice : String} (declared : registry.Declares name choice) :
    ∃ pivot ∈ registry.pivots, registry.lookup name = .ok pivot ∧ choice ∈ pivot.choiceNames := by
  rcases declared with ⟨pivot, present, named, member⟩
  have found := get?_eq_some_iff.mpr ⟨present, named⟩
  exact ⟨pivot, present, by rw [lookup, found], member⟩

theorem exists_condition_of_isBuiltIn {pivot : Pivot} (present : pivot ∈ registry.pivots)
    (builtIn : pivot.isBuiltIn) {choice : String} (member : choice ∈ pivot.choiceNames) :
    ∃ condition, (pivot.find? choice).bind (·.condition) = some condition := by
  rcases List.mem_map.mp member with ⟨declared, isChoice, rfl⟩
  have found : (pivot.find? declared.name).isSome := by
    rw [Pivot.find?, List.find?_isSome]
    exact ⟨declared, isChoice, by simp⟩
  rcases Option.isSome_iff_exists.mp found with ⟨first, first_eq⟩
  have conditioned := (registry.sound pivot present).isSome_condition builtIn first
    (List.mem_of_find?_eq_some first_eq)
  rw [first_eq, Option.bind_some]
  exact Option.isSome_iff_exists.mp conditioned

end Registry

/-- A template in which every group and every choice can be written. -/
structure Template.Total [AtomWriter Custom] (template : Template Custom) : Prop where
  grouped : ∀ inner, ∃ text, template.grouped inner = .ok text
  atom : ∀ scope choice pivot, ∃ text, template.atom.text scope choice pivot = .ok text

namespace Template

theorem exists_grouped_of_mem_builtIns {template : Template Custom}
    (builtIn : template ∈ builtIns Custom) :
    ∃ before after, before ≠ "" ∧ ∀ inner, template.grouped inner = .ok (before ++ inner ++ after) := by
  rw [builtIns] at builtIn
  simp only [List.mem_cons, List.not_mem_nil, or_false] at builtIn
  rcases builtIn with rfl | rfl | rfl | rfl
  · exact ⟨_, _, by decide, grouped_slot ['(', ' '] [' ', ')'] rfl (by simp [Pattern.isBrace])⟩
  · exact ⟨_, _, by decide, grouped_slot ['('] [')'] rfl (by simp [Pattern.isBrace])⟩
  · exact ⟨_, _, by decide, grouped_slot ['('] [')'] rfl (by simp [Pattern.isBrace])⟩
  · exact ⟨_, _, by decide, grouped_slot ['_', '_'] ['_', '_'] rfl (by simp [Pattern.isBrace])⟩

theorem atom_of_mem_builtIns {template : Template Custom} (builtIn : template ∈ builtIns Custom) :
    template.atom = .choice ∨ template.atom = .condition := by
  rw [builtIns] at builtIn
  simp only [List.mem_cons, List.not_mem_nil, or_false] at builtIn
  rcases builtIn with rfl | rfl | rfl | rfl
  · exact .inr rfl
  · exact .inl rfl
  · exact .inl rfl
  · exact .inl rfl

end Template

variable [AtomWriter Custom]

theorem Template.total_of_mem_builtIns {template : Template Custom}
    (builtIn : template ∈ Template.builtIns Custom) : template.Total where
  grouped inner := by
    rcases exists_grouped_of_mem_builtIns builtIn with ⟨before, after, _, grouped⟩
    exact ⟨_, grouped inner⟩
  atom scope choice pivot := by
    rcases atom_of_mem_builtIns builtIn with byName | byCondition
    · exact ⟨choice, by rw [byName, AtomStyle.text]⟩
    · exact ⟨pivot.conditionText choice, by rw [byCondition, AtomStyle.text]⟩

variable {registry : Registry} {template : Template Custom}

theorem failsWith_renderWord (total : template.Total) (registry : Registry) (scope word : String) :
    FailsWith (registry.unresolved? [word]) (renderWord registry template scope word).result := by
  rw [Registry.unresolved?, List.find?_singleton, Registry.unknown, renderWord]
  cases resolved : registry.resolve? word with
  | some found =>
      rcases Registry.exists_lookup_eq_ok (Registry.declares_of_resolve?_eq_some resolved) with
        ⟨pivot, _, known, _⟩
      rcases total.atom scope found.2 pivot with ⟨text, written⟩
      refine ⟨text, ?_⟩
      simp [Traced.mark, known, written, Except.bind]
  | none =>
      cases isConstantWord word with
      | true => exact ⟨_, rfl⟩
      | false => rfl

mutual

theorem failsWith_renderTerm (total : template.Total) (registry : Registry) (scope : String)
    (term : Term) :
    FailsWith (registry.unresolved? term.words) (renderTerm registry template scope term).result := by
  cases term with
  | word lead word =>
      rw [Term.words, renderTerm]
      exact failsWith_renderWord total registry scope word
  | group lead terms =>
      rw [Term.words, renderTerm]
      cases terms with
      | nil => exact ⟨"true", rfl⟩
      | cons first rest =>
          rw [List.isEmpty_cons, if_neg Bool.false_ne_true, Traced.result_bind]
          apply (failsWith_renderTerms total registry scope true (first :: rest)).bind_of_ok
          exact total.grouped

theorem failsWith_renderTerms (total : template.Total) (registry : Registry) (scope : String)
    (first : Bool) (terms : List Term) :
    FailsWith (registry.unresolved? (levelWords terms))
      (renderTerms registry template scope first terms).result := by
  cases terms with
  | nil =>
      rw [levelWords, renderTerms]
      exact ⟨"", rfl⟩
  | cons term rest =>
      rw [levelWords, Registry.unresolved?_append, renderTerms, Traced.result_bind]
      apply (failsWith_renderTerm total registry scope term).bind
      intro text
      rw [Traced.result_bind]
      apply (failsWith_renderTerms total registry scope false rest).bind_of_ok
      intro after
      exact ⟨_, rfl⟩

end

/-- The texts that a template writes for terms whose words name something, and for levels of them. -/
structure Template.Spells (template : Template Custom) (registry : Registry) (ofTerm : Term → String)
    (ofLevel : Bool → List Term → String) : Prop where
  word : ∀ (lead : Lead) {word : String}, registry.unresolved? [word] = none → ∀ scope,
    (renderWord registry template scope word).result = .ok (ofTerm (.word lead word))
  empty : ∀ lead, ofTerm (.group lead []) = "true"
  group : ∀ (lead : Lead) {terms : List Term}, terms ≠ [] →
    template.grouped (ofLevel true terms) = .ok (ofTerm (.group lead terms))
  nil : ∀ first, ofLevel first [] = ""
  cons : ∀ first term rest, ofLevel first (term :: rest) =
    (if first then template.opening term.lead else template.joint term.lead) ++ ofTerm term ++
      ofLevel false rest

section

variable {ofTerm : Term → String} {ofLevel : Bool → List Term → String}

mutual

theorem renderTerm_of_spells (spells : template.Spells registry ofTerm ofLevel) {term : Term}
    (resolves : registry.unresolved? term.words = none) (scope : String) :
    (renderTerm registry template scope term).result = .ok (ofTerm term) := by
  cases term with
  | word lead word =>
      rw [renderTerm]
      exact spells.word lead resolves scope
  | group lead terms =>
      rw [renderTerm]
      split
      · rename_i empty
        rw [List.isEmpty_iff.mp empty, spells.empty]
        rfl
      · rename_i nonempty
        rw [List.isEmpty_iff] at nonempty
        have inner : (renderTerms registry template scope true terms).result = .ok (ofLevel true terms) :=
          renderTerms_of_spells spells resolves scope
        rw [Traced.result_bind, inner, Except.bind, Traced.result_ofExcept, spells.group lead nonempty]

theorem renderTerms_of_spells (spells : template.Spells registry ofTerm ofLevel) {first : Bool}
    {terms : List Term} (resolves : registry.unresolved? (levelWords terms) = none) (scope : String) :
    (renderTerms registry template scope first terms).result = .ok (ofLevel first terms) := by
  cases terms with
  | nil =>
      rw [renderTerms, spells.nil]
      rfl
  | cons term rest =>
      rw [levelWords, Registry.unresolved?_append, Option.or_eq_none_iff] at resolves
      have text := renderTerm_of_spells spells resolves.1 scope
      have after : (renderTerms registry template scope false rest).result = .ok (ofLevel false rest) :=
        renderTerms_of_spells spells resolves.2 scope
      rw [renderTerms, spells.cons]
      simp [text, after, Except.bind]

end

end

theorem render_some (registry : Registry) (template : Template Custom) (scope text : String) :
    render registry template scope (some text) =
      Traced.ofExcept (splitTerms text) >>= renderTerms registry template scope true := by
  by_cases empty : text = ""
  · subst empty
    rfl
  · unfold render
    split
    · contradiction
    · rename_i same
      exact absurd (Option.some.inj same) empty
    · rename_i same
      rw [← Option.some.inj same]

theorem result_render (registry : Registry) (template : Template Custom) (scope text : String) :
    (render registry template scope (some text)).result =
      (splitTerms text).bind fun terms => (renderTerms registry template scope true terms).result := by
  rw [render_some, Traced.result_bind, Traced.result_ofExcept]

theorem exists_terms_of_parse_eq_ok (template : Template Custom) {text : Option String}
    {condition : Condition} (read : Condition.parse registry text = .ok condition) :
    ∃ terms, Condition.ofTerms registry none terms = .ok condition ∧
      ∀ scope, (render registry template scope text).result =
        (renderTerms registry template scope true terms).result := by
  cases text with
  | none => exact ⟨[], read, fun _ => rfl⟩
  | some text =>
      rcases Condition.parse_eq_ok_iff.mp read with ⟨terms, split, termsRead⟩
      refine ⟨terms, termsRead, ?_⟩
      intro scope
      rw [result_render, split, Except.bind]

end Variants
