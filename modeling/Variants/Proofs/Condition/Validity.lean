import Variants.Proofs.Condition.Leaves
import Variants.Proofs.Template.Rendering

/-!
What is wrong with a text. Reading a text and rendering it in a known syntax fail alike: with the flaw in
the form of the text, or else at its first word that names nothing. A text with which nothing is wrong
states a condition about declared choices, which can be evaluated and rendered.
-/

namespace Variants

variable {Custom : Type}

/-- What is wrong with a text; the absence of a text is no failure. -/
def defect? (registry : Registry) : Option String → Option Error
  | none => none
  | some text =>
    match arrange (tokenize text) with
    | .error flaw => some (.malformed flaw text)
    | .ok _ => registry.unresolved? (words text)

section

variable {registry : Registry} {text : String}

theorem defect?_of_splitTerms_eq_error {cause : Error} (split : splitTerms text = .error cause) :
    defect? registry (some text) = some cause := by
  cases arranged : arrange (tokenize text) with
  | error flaw =>
      rw [splitTerms, arranged] at split
      simp only [defect?, arranged, ← Except.error.inj split]
  | ok terms =>
      rw [splitTerms, arranged] at split
      contradiction

theorem defect?_of_splitTerms_eq_ok {terms : List Term} (split : splitTerms text = .ok terms) :
    defect? registry (some text) = registry.unresolved? (levelWords terms) := by
  have arranged := Outcome.mapError_eq_ok_iff.mp split
  rw [defect?, levelWords_eq_words split]
  simp only [arranged]

end

theorem failsWith_parse (registry : Registry) (text : Option String) :
    FailsWith (defect? registry text) (Condition.parse registry text) := by
  cases text with
  | none => exact ⟨.always, rfl⟩
  | some text =>
      rw [Condition.parse]
      cases split : splitTerms text with
      | error cause =>
          rw [defect?_of_splitTerms_eq_error split]
          rfl
      | ok terms =>
          rw [defect?_of_splitTerms_eq_ok split]
          exact Condition.failsWith_ofTerms registry none terms

theorem failsWith_render [AtomWriter Custom] {template : Template Custom} (total : template.Total)
    (registry : Registry) (scope : String) (text : Option String) :
    FailsWith (defect? registry text) (render registry template scope text).result := by
  cases text with
  | none => exact ⟨"", rfl⟩
  | some text =>
      rw [result_render]
      cases split : splitTerms text with
      | error cause =>
          rw [defect?_of_splitTerms_eq_error split]
          rfl
      | ok terms =>
          rw [defect?_of_splitTerms_eq_ok split]
          exact failsWith_renderTerms total registry scope true terms

/-- Reading a text and rendering it in a known syntax fail on the same texts and with the same cause,
which is what is wrong with the text. The condition of any other text names declared choices, each with
a condition of its own in a built-in pivot, and it is evaluated and rendered without failure. -/
theorem parse_and_render_agree [AtomWriter Custom] (registry : Registry) {template : Template Custom}
    (builtIn : template ∈ Template.builtIns Custom) (scope : String) (text : Option String) :
    (∀ cause, Condition.parse registry text = .error cause ↔ defect? registry text = some cause) ∧
      (∀ cause, (render registry template scope text).result = .error cause ↔
        defect? registry text = some cause) ∧
      ∀ condition, Condition.parse registry text = .ok condition →
        condition.Declared registry ∧
          (∀ name choice, (name, choice) ∈ condition.leaves →
            ∃ pivot, registry.lookup name = .ok pivot ∧ choice ∈ pivot.choiceNames ∧
              (pivot.isBuiltIn → ∃ own, (pivot.find? choice).bind (·.condition) = some own)) ∧
          (∃ selection, (condition.evaluate registry).result = .ok selection) ∧
          ∃ rendered, (render registry template scope text).result = .ok rendered := by
  have parseFails := failsWith_parse registry text
  have renderFails := failsWith_render (Template.total_of_mem_builtIns builtIn) registry scope text
  refine ⟨fun cause => parseFails.eq_error_iff, fun cause => renderFails.eq_error_iff, ?_⟩
  intro condition read
  have declared := Condition.declared_of_parse_eq_ok read
  refine ⟨declared, ?_, ?_, ?_⟩
  · intro name choice member
    rcases Registry.exists_lookup_eq_ok (Condition.declares_of_mem_leaves declared member) with
      ⟨pivot, present, known, isChoice⟩
    exact ⟨pivot, known, isChoice, fun builtIn =>
      Registry.exists_condition_of_isBuiltIn present builtIn isChoice⟩
  · rcases Condition.evaluate_computes declared with ⟨selection, result, _⟩
    exact ⟨selection, result⟩
  · have sound : defect? registry text = none := by
      rw [Option.eq_none_iff_forall_ne_some]
      intro cause wrong
      rw [parseFails.eq_error_iff.mpr wrong] at read
      contradiction
    rw [sound] at renderFails
    exact renderFails.exists_eq_ok

theorem parse_and_render_agree_of_example :
    let text := some "!(x86 & !(Debug | TRUE)) | woa"
    let condition := Condition.or
      (.or (.choice "Platform" "Win32" true) (.or (.choice "Configuration" "Debug" false) .always))
      (.choice "Platform" "ARM" false)
    let template : Template := .buildCondition
    template ∈ Template.builtIns ∧ Condition.parse Example.registry text = .ok condition ∧
      (∃ pivot, Example.registry.lookup "Platform" = .ok pivot ∧ "Win32" ∈ pivot.choiceNames ∧
        (pivot.isBuiltIn → ∃ own, (pivot.find? "Win32").bind (·.condition) = some own)) ∧
      ∃ rendered, (render Example.registry template "zlib" text).result = .ok rendered := by
  intro text condition template
  have builtIn : template ∈ Template.builtIns := List.mem_cons_self
  have agree := parse_and_render_agree Example.registry builtIn "zlib" text
  rcases agree.2.2 condition Example.parse_negated_groups with ⟨_, leaves, _, rendered⟩
  exact ⟨builtIn, Example.parse_negated_groups, leaves "Platform" "Win32" List.mem_cons_self, rendered⟩

end Variants
