import Variants.Proofs.Condition.Validity

/-!
Renderings that fail. A text with which nothing is wrong is rendered unless the template itself raises a
failure, in wrapping a group or in writing a choice.
-/

namespace Variants

variable {Custom : Type} [AtomWriter Custom]

/-- The failures that a template can raise for a caller. -/
inductive Template.Raises (template : Template Custom) (scope : String) (cause : Error) : Prop
  | group {inner : String} (fails : template.grouped inner = .error cause)
  | atom {choice : String} {pivot : Pivot}
      (fails : template.atom.text scope choice pivot = .error cause)

variable {registry : Registry} {template : Template Custom} {scope : String} {cause : Error}

theorem raises_of_renderWord_eq_error {word : String} (resolves : registry.unresolved? [word] = none)
    (fails : (renderWord registry template scope word).result = .error cause) :
    template.Raises scope cause := by
  rw [renderWord] at fails
  cases resolved : registry.resolve? word with
  | none =>
      have constant : isConstantWord word = true := by
        simpa [Registry.unresolved?, Registry.unknown, resolved] using resolves
      simp [resolved, constant] at fails
  | some found =>
      rcases Registry.exists_lookup_eq_ok (Registry.declares_of_resolve?_eq_some resolved) with
        ⟨pivot, _, known, _⟩
      have written : template.atom.text scope found.2 pivot = .error cause := by
        simpa [resolved, Traced.mark, known, Except.bind] using fails
      exact .atom written

mutual

theorem raises_of_renderTerm_eq_error {term : Term}
    (resolves : registry.unresolved? term.words = none)
    (fails : (renderTerm registry template scope term).result = .error cause) :
    template.Raises scope cause := by
  cases term with
  | word lead word =>
      rw [renderTerm] at fails
      exact raises_of_renderWord_eq_error resolves fails
  | group lead terms =>
      rw [renderTerm] at fails
      split at fails
      · contradiction
      · rw [Traced.result_bind] at fails
        rcases Outcome.bind_eq_error_iff.mp fails with early | ⟨inner, _, late⟩
        · exact raises_of_renderTerms_eq_error resolves early
        · exact .group late

theorem raises_of_renderTerms_eq_error {first : Bool} {terms : List Term}
    (resolves : registry.unresolved? (levelWords terms) = none)
    (fails : (renderTerms registry template scope first terms).result = .error cause) :
    template.Raises scope cause := by
  cases terms with
  | nil =>
      rw [renderTerms] at fails
      contradiction
  | cons term rest =>
      rw [levelWords, Registry.unresolved?_append, Option.or_eq_none_iff] at resolves
      rw [renderTerms, Traced.result_bind] at fails
      rcases Outcome.bind_eq_error_iff.mp fails with early | ⟨text, _, late⟩
      · exact raises_of_renderTerm_eq_error resolves.1 early
      · rw [Traced.result_bind] at late
        rcases Outcome.bind_eq_error_iff.mp late with further | ⟨_, _, none⟩
        · exact raises_of_renderTerms_eq_error resolves.2 further
        · contradiction

end

theorem raises_of_render_eq_error {text : String} (sound : defect? registry (some text) = none)
    (fails : (render registry template scope (some text)).result = .error cause) :
    template.Raises scope cause := by
  rw [result_render] at fails
  rcases Outcome.bind_eq_error_iff.mp fails with split | ⟨terms, split, rendering⟩
  · rw [defect?_of_splitTerms_eq_error split] at sound
    contradiction
  · rw [defect?_of_splitTerms_eq_ok split] at sound
    exact raises_of_renderTerms_eq_error sound rendering

end Variants
