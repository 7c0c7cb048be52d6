import Variants.Proofs.Condition.Rereading
import Variants.Proofs.Template.Rendering

/-!
Templates that write conditions. The path template puts between terms what can be read as an operator, and
names every choice, so its renderings are texts of conditions themselves. In a plain registry, what it makes
of a text states the condition of that text.
-/

namespace Variants

variable {Custom : Type} [AtomWriter Custom]

/-- A template whose texts are the lexemes of a script. -/
structure Template.Writes (template : Template Custom) (script : Script) : Prop where
  opening : ∀ lead, template.opening lead = lexemesText (script.lead true lead)
  joint : ∀ lead, template.joint lead = lexemesText (script.lead false lead)
  grouped : ∀ inner, template.grouped inner =
    .ok (lexemesText [.opening] ++ inner ++ lexemesText [.closing])
  atom : ∀ scope choice pivot, template.atom.text scope choice pivot = .ok choice

def Script.path : Script where
  text connective :=
    match connective with
    | .and => "\\"
    | .or => "+"
  proper connective := by
    cases connective with
    | and => exact .of_all (by decide) (by decide) (by decide)
    | or => exact .of_all (by decide) (by decide) (by decide)

theorem Template.path_writes : (Template.path : Template Custom).Writes .path where
  opening lead := by
    rcases lead with ⟨connective, negated, position⟩
    cases negated with
    | false => rfl
    | true => rfl
  joint lead := by
    rcases lead with ⟨connective, negated, position⟩
    match connective, negated with
    | some .and, false | some .and, true => rfl
    | some .or, false | some .or, true => rfl
    | none, false | none, true => rfl
  grouped inner := by
    exact grouped_slot ['('] [')'] rfl (by simp [Pattern.isBrace]) inner
  atom scope choice pivot := rfl

variable {registry : Registry} {template : Template Custom} {script : Script}

theorem renderWord_of_writes (writes : template.Writes script) {word : String}
    (resolves : registry.unresolved? [word] = none) (scope : String) :
    (renderWord registry template scope word).result = .ok (registry.written word) := by
  rw [renderWord]
  rcases Registry.written_cases resolves with
    ⟨pivot, choice, resolved, same⟩ | ⟨unresolved, same, constant⟩
  · rcases Registry.exists_lookup_eq_ok (Registry.declares_of_resolve?_eq_some resolved) with
      ⟨found, _, known, _⟩
    simp [resolved, same, Traced.mark, known, writes.atom, Except.bind]
  · have isConstant : isConstantWord word = true := by simpa [isConstantWord] using constant
    simp [unresolved, same, isConstant]

theorem Template.Writes.spells (writes : template.Writes script) (registry : Registry) :
    template.Spells registry (fun term => lexemesText (term.lexemes registry script))
      (fun first terms => lexemesText (levelLexemes registry script first terms)) where
  word lead word resolves scope := by
    rw [renderWord_of_writes writes resolves, Term.lexemes, lexemesText_cons, lexemesText_nil,
      String.append_empty]
  empty lead := rfl
  group lead terms nonempty := by
    rw [writes.grouped, Term.lexemes, if_neg (by rwa [List.isEmpty_iff]), ← lexemesText_append,
      ← lexemesText_append]
    rfl
  nil first := rfl
  cons first term rest := by
    have before : (if first then template.opening term.lead else template.joint term.lead) =
        lexemesText (script.lead first term.lead) := by
      cases first with
      | true => exact writes.opening term.lead
      | false => exact writes.joint term.lead
    rw [before, levelLexemes, lexemesText_append, lexemesText_append, String.append_assoc]

theorem exists_render_of_writes (plain : registry.Plain) (writes : template.Writes script)
    {text : Option String} {condition : Condition} (read : Condition.parse registry text = .ok condition) :
    ∃ fragment, (∀ scope, (render registry template scope text).result = .ok fragment) ∧
      Condition.parse registry (some fragment) = .ok condition ∧
      ∀ scope, (render registry template scope (some fragment)).result = .ok fragment := by
  rcases exists_terms_of_parse_eq_ok template read with ⟨terms, termsRead, rendered⟩
  have resolves := Condition.resolves_of_ofTerms_eq_ok termsRead
  rcases exists_splitTerms_written plain script termsRead with
    ⟨restated, split, restatedRead, rewritten⟩
  have resolvesToo := Condition.resolves_of_ofTerms_eq_ok restatedRead
  refine ⟨lexemesText (levelLexemes registry script true terms), ?_, ?_, ?_⟩
  · intro scope
    rw [rendered]
    exact renderTerms_of_spells (writes.spells registry) resolves scope
  · exact Condition.parse_eq_ok_iff.mpr ⟨restated, split, restatedRead⟩
  · intro scope
    rw [result_render, split, Except.bind, ← rewritten]
    exact renderTerms_of_spells (writes.spells registry) resolvesToo scope

/-- In a plain registry, a text and its path state the same condition, and a path is its own path. -/
theorem path_states_condition (registry : Registry) (plain : registry.Plain) (text : Option String)
    (condition : Condition) (read : Condition.parse registry text = .ok condition) :
    ∃ fragment,
      (∀ scope, (render registry (Template.path : Template Custom) scope text).result = .ok fragment) ∧
        Condition.parse registry (some fragment) = .ok condition ∧
        ∀ scope, (render registry (Template.path : Template Custom) scope (some fragment)).result =
          .ok fragment :=
  exists_render_of_writes plain Template.path_writes read

theorem path_states_condition_of_example :
    let condition : Condition := .or
      (.or (.choice "Platform" "Win32" true) (.or (.choice "Configuration" "Debug" false) .always))
      (.choice "Platform" "ARM" false)
    Condition.parse Example.registry (some "!(x86 & !(Debug | TRUE)) | woa") = .ok condition ∧
      ∃ fragment,
        (∀ scope, (render Example.registry (Template.path : Template) scope
          (some "!(x86 & !(Debug | TRUE)) | woa")).result = .ok fragment) ∧
        Condition.parse Example.registry (some fragment) = .ok condition ∧
        ∀ scope, (render Example.registry (Template.path : Template) scope (some fragment)).result =
          .ok fragment :=
  ⟨Example.parse_negated_groups,
    path_states_condition Example.registry Example.registry_plain _ _ Example.parse_negated_groups⟩

end Variants
