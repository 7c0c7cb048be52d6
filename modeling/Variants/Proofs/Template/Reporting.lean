import Variants.Proofs.Condition.Validity

/-!
What rendering a text reports. In every template, rendering reports the choices that the words of the text
name, from left to right and each as often as it is named, up to where it fails. Evaluation reports the
leaves of the condition, which are the same choices: turning a negated group around keeps the order of its
leaves, and an operand that decides nothing is evaluated all the same.
-/

namespace Variants

variable {Custom : Type} [AtomWriter Custom] {registry : Registry} {template : Template Custom}

theorem reports_renderWord (registry : Registry) (template : Template Custom) (scope word : String) :
    (renderWord registry template scope word).Reports ([word].filterMap registry.resolve?) := by
  rw [renderWord]
  cases resolved : registry.resolve? word with
  | none =>
      rw [List.filterMap_cons_none resolved]
      exact Traced.reports_ofExcept _
  | some found =>
      rw [List.filterMap_cons_some resolved]
      apply (Traced.reports_mark found.1 found.2).bind
      intro _ _
      exact (Traced.reports_ofExcept (registry.lookup found.1)).then_ofExcept _

mutual

theorem reports_renderTerm (registry : Registry) (template : Template Custom) (scope : String)
    (term : Term) :
    (renderTerm registry template scope term).Reports (term.words.filterMap registry.resolve?) := by
  cases term with
  | word lead word =>
      rw [renderTerm, Term.words]
      exact reports_renderWord registry template scope word
  | group lead terms =>
      rw [renderTerm, Term.words]
      cases terms with
      | nil => exact Traced.reports_pure _
      | cons first rest =>
          rw [List.isEmpty_cons, if_neg Bool.false_ne_true]
          exact (reports_renderTerms registry template scope true (first :: rest)).then_ofExcept _

theorem reports_renderTerms (registry : Registry) (template : Template Custom) (scope : String)
    (first : Bool) (terms : List Term) :
    (renderTerms registry template scope first terms).Reports
      ((levelWords terms).filterMap registry.resolve?) := by
  cases terms with
  | nil =>
      rw [renderTerms, levelWords]
      exact Traced.reports_pure _
  | cons term rest =>
      rw [renderTerms, levelWords, List.filterMap_append]
      apply (reports_renderTerm registry template scope term).bind
      intro text _
      exact (reports_renderTerms registry template scope false rest).then_ofExcept fun after => .ok _

end

theorem reports_render (registry : Registry) (template : Template Custom) (scope : String)
    (text : Option String) :
    (render registry template scope text).Reports (text.elim [] registry.mentions) := by
  cases text with
  | none => exact Traced.reports_pure _
  | some text =>
      rw [render_some]
      apply (Traced.reports_ofExcept (splitTerms text)).bind
      intro terms split
      rw [← levelWords_eq_words split]
      exact reports_renderTerms registry template scope true terms

theorem mem_mentions_of_mem_marks_render {scope text : String} {mark : Mark}
    (member : mark ∈ (render registry template scope (some text)).marks) :
    mark ∈ registry.mentions text :=
  (reports_render registry template scope (some text)).begins.subset member

/-- Evaluating the condition of a text and rendering the text, where that succeeds, report the same: what
the words of the text name, one report for every word, in the order of the words. -/
theorem evaluate_and_render_report (registry : Registry) (template : Template Custom) (scope : String)
    {text : Option String} {condition : Condition} {rendered : String}
    (read : Condition.parse registry text = .ok condition)
    (returns : (render registry template scope text).result = .ok rendered) :
    (∃ selection, (condition.evaluate registry).result = .ok selection) ∧
      (condition.evaluate registry).marks = (render registry template scope text).marks ∧
      (render registry template scope text).marks =
        text.elim [] fun text => (words text).filterMap registry.resolve? := by
  have declared := Condition.declared_of_parse_eq_ok read
  have byRendering := (reports_render registry template scope text).complete rendered returns
  have leaves : condition.leaves = text.elim [] registry.mentions := by
    cases text with
    | none =>
        obtain rfl : Condition.always = condition := Except.ok.inj read
        rfl
    | some text => exact Condition.leaves_of_parse_eq_ok read
  rcases Condition.evaluate_computes declared with ⟨selection, result, _⟩
  refine ⟨⟨selection, result⟩, ?_, byRendering⟩
  rw [Condition.marks_evaluate declared, leaves, byRendering]

theorem evaluate_and_render_report_of_example :
    let text := some "!(x86 & !(Debug | TRUE)) | woa"
    let condition := Condition.or
      (.or (.choice "Platform" "Win32" true) (.or (.choice "Configuration" "Debug" false) .always))
      (.choice "Platform" "ARM" false)
    let template : Template := .path
    let marks := [("Platform", "Win32"), ("Configuration", "Debug"), ("Platform", "ARM")]
    Condition.parse Example.registry text = .ok condition ∧
      (∃ rendered, (render Example.registry template "zlib" text).result = .ok rendered) ∧
      (∃ selection, (condition.evaluate Example.registry).result = .ok selection) ∧
      (condition.evaluate Example.registry).marks = marks ∧
      (render Example.registry template "zlib" text).marks = marks := by
  intro text condition template marks
  have sound : defect? Example.registry text = none := by decide +kernel
  have total : template.Total := Template.total_of_mem_builtIns (by simp [Template.builtIns, template])
  have renders := failsWith_render total Example.registry "zlib" text
  rw [sound] at renders
  rcases renders.exists_eq_ok with ⟨rendered, returns⟩
  rcases evaluate_and_render_report Example.registry template "zlib" Example.parse_negated_groups returns
    with ⟨evaluated, same, named⟩
  have resolved : (words "!(x86 & !(Debug | TRUE)) | woa").filterMap Example.registry.resolve? = marks := by
    decide +kernel
  have byRendering := named.trans resolved
  exact ⟨Example.parse_negated_groups, ⟨rendered, returns⟩, evaluated, same.trans byRendering, byRendering⟩

end Variants
