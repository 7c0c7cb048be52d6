import Variants.Proofs.Condition.Validity
import Variants.Proofs.Engine.Rendering
import Variants.Proofs.Template.Blank

/-!
Empty answers. What an engine renders for a text is empty iff the first text of the run that means the same
is blank. As a text of blanks is remembered like any other text, and means the same as a constant, an empty
answer does not tell that the text itself is blank, unless the texts that mean the same are all blank or
none of them is.
-/

namespace Variants

variable {Custom : Type}

theorem exists_render_eq_ok [AtomWriter Custom] {registry : Registry} {template : Template Custom}
    (builtIn : template ∈ Template.builtIns Custom) {text : Option String} {condition : Condition}
    (read : Condition.parse registry text = .ok condition) (scope : String) :
    ∃ rendered, (render registry template scope text).result = .ok rendered := by
  have sound := (failsWith_parse registry text).eq_none_of_ok read
  have fails := failsWith_render (Template.total_of_mem_builtIns builtIn) registry scope text
  rw [sound] at fails
  exact fails.exists_eq_ok

namespace Engine

variable [DecidableEq Custom] [AtomWriter Custom]

/-- In a legible registry, the answer to a text in a known syntax is empty iff the text is empty or the first
text of the run with its selection is blank. So empty answers are those to blank texts as long as of the texts
with the selection either all are blank or none is. -/
theorem history_render_eq_empty_iff (registry : Registry) (legible : registry.Legible)
    (requests : List (Request Custom)) (step : Nat) {reference : TemplateRef Custom}
    {template : Template Custom} {scope : String} {text : Option String} {condition : Condition}
    (asked : requests[step]? = some (.render reference scope text))
    (known : reference.resolve = .ok template) (builtIn : template ∈ Template.builtIns Custom)
    (read : Condition.parse registry text = .ok condition) :
    ∃ selection rendered, (condition.evaluate registry).result = .ok selection ∧
      (history ({ registry } : Engine Custom) requests)[step]?.map Prod.fst =
        some (.ok (.text rendered)) ∧
      (rendered = "" ↔ text.filter (· != "") = none ∨ ∃ spelling,
        firstSpelling registry (requests.take (step + 1)) selection = some spelling ∧
          Blank (some spelling)) ∧
      ((∀ request ∈ requests.take (step + 1), ∀ words, request.evaluated? = some words →
          Condition.selection? registry words = some selection → (Blank (some words) ↔ Blank text)) →
        (rendered = "" ↔ Blank text)) := by
  rcases Condition.exists_evaluate_eq_ok read with ⟨selection, result⟩
  by_cases empty : text.filter (· != "") = none
  · exact ⟨selection, "", result, history_getElem?_render_of_empty asked known empty, by simp [empty],
      by simp [blank_of_empty empty]⟩
  · obtain ⟨words, kept⟩ := Option.ne_none_iff_exists'.mp empty
    have evaluates : (Request.render reference scope text).evaluated? = some words := by
      simpa only [Request.evaluated?, known] using kept
    rcases Request.text?_of_evaluated? evaluates with ⟨handed, nonempty⟩
    obtain rfl : text = some words := handed
    have first := firstSpelling_take_succ asked evaluates
      (Condition.selection?_of_parse_eq_ok read result)
    have spellingStates := selection?_of_firstSpelling first
    rcases Condition.exists_parse_of_selection?_eq_some spellingStates with ⟨_, spellingRead, _⟩
    rcases exists_render_eq_ok builtIn spellingRead scope with ⟨rendered, spellingRendered⟩
    have blank := render_eq_empty_iff (Template.legible_of_mem_builtIns legible builtIn) scope
      (some ((firstSpelling registry (requests.take step) selection).getD words))
    rw [spellingRendered, Except.ok.injEq] at blank
    refine ⟨selection, rendered, result, ?_, by simp [blank, first, nonempty], ?_⟩
    · rw [history_getElem?_render asked known nonempty read result, spellingRendered]
      rfl
    · intro alike
      rcases exists_evaluated_of_firstSpelling first with ⟨request, before, spellingEvaluates⟩
      rw [blank]
      exact alike request before _ spellingEvaluates spellingStates

theorem history_render_eq_empty_iff_of_example :
    let requests : List Request := [.normalize (some "Debug | !Debug"), .path "zlib" (some "True")]
    let template : Template := .path
    Example.registry.Legible ∧ template ∈ Template.builtIns Empty ∧
      Condition.parse Example.registry (some "True") = .ok .always ∧
      ∃ selection rendered, (Condition.always.evaluate Example.registry).result = .ok selection ∧
        (history ({ registry := Example.registry } : Engine) requests)[1]?.map Prod.fst =
          some (.ok (.text rendered)) ∧
        (rendered = "" ↔ (some "True").filter (· != "") = none ∨ ∃ spelling,
          firstSpelling Example.registry (requests.take 2) selection = some spelling ∧
            Blank (some spelling)) ∧
        ((∀ request ∈ requests.take 2, ∀ words, request.evaluated? = some words →
            Condition.selection? Example.registry words = some selection →
              (Blank (some words) ↔ Blank (some "True"))) →
          (rendered = "" ↔ Blank (some "True"))) := by
  intro requests template
  have builtIn : template ∈ Template.builtIns Empty := by decide
  have read : Condition.parse Example.registry (some "True") = .ok .always := by
    apply Condition.parse_eq_ok_of_toOption
    decide +kernel
  exact ⟨Example.registry_legible, builtIn, read,
    history_render_eq_empty_iff Example.registry Example.registry_legible requests 1 rfl rfl builtIn read⟩

/-- A text of blanks takes the place of a constant in all later answers, and the other way round. -/
theorem history_render_blank_with_constant :
    Example.registry.Legible ∧ Blank (some " ") ∧ ¬ Blank (some "true") ∧
      (history ({ registry := Example.registry } : Engine)
        [.label (some " "), .label (some "true")]).map (·.1.toOption) =
          [some (.text ""), some (.text "")] ∧
      (history ({ registry := Example.registry } : Engine)
        [.label (some "true"), .label (some " ")]).map (·.1.toOption) =
          [some (.text "true"), some (.text "true")] := by
  refine ⟨Example.registry_legible, ?_, ?_, ?_, ?_⟩
  · exact blank_some_iff.mpr (by decide +kernel)
  · exact fun blank => absurd (blank_some_iff.mp blank) (by decide +kernel)
  · decide +kernel
  · decide +kernel

end Engine

end Variants
