import Variants.Engine.Request
import Variants.Proofs.Condition.Parsing
import Variants.Proofs.Evaluation

/-!
One step of an engine. A request that evaluates no text, or one that cannot be read, leaves the engine
as it is. Every other request remembers its text, unless the selection of the text has one already, and
a rendering is then fetched through the cache.
-/

namespace Variants

variable {Custom : Type}

namespace Condition

variable {registry : Registry}

theorem exists_evaluate_eq_ok {text : Option String} {condition : Condition}
    (read : parse registry text = .ok condition) :
    ∃ selection, (condition.evaluate registry).result = .ok selection := by
  rcases evaluate_computes (declared_of_parse_eq_ok read) with ⟨selection, result, _⟩
  exact ⟨selection, result⟩

theorem parse_empty (registry : Registry) : parse registry (some "") = .ok always := by
  rfl

theorem reading_cases (registry : Registry) (text : Option String) :
    text.filter (· != "") = none ∨
      (∃ words cause, text = some words ∧ words ≠ "" ∧
        parse registry (some words) = .error cause) ∨
      ∃ words condition selection, text = some words ∧ words ≠ "" ∧
        parse registry (some words) = .ok condition ∧
        (condition.evaluate registry).result = .ok selection := by
  cases proper : text.filter (· != "") with
  | none => exact .inl rfl
  | some words =>
      rcases Option.filter_eq_some_iff.mp proper with ⟨same, kept⟩
      have nonempty : words ≠ "" := by simpa using kept
      right
      cases read : parse registry (some words) with
      | error cause => exact .inl ⟨words, cause, same, nonempty, read⟩
      | ok condition =>
          rcases exists_evaluate_eq_ok read with ⟨selection, result⟩
          exact .inr ⟨words, condition, selection, same, nonempty, read, result⟩

end Condition

namespace Request

def text? : Request Custom → Option String
  | parse text | evaluate text | normalize text | render _ _ text => text
  | analyze => none

/-- The text that a request evaluates; one about an empty text is answered at once. -/
def evaluated? : Request Custom → Option String
  | parse _ | analyze => none
  | evaluate text | normalize text => text.filter (· != "")
  | render reference _ text =>
    match reference.resolve with
    | .ok _ => text.filter (· != "")
    | .error _ => none

def key? (selection : Selection) : Request Custom → Option (CacheKey Custom)
  | render reference scope _ =>
    match reference.resolve with
    | .ok template => some ⟨scope, selection, template⟩
    | .error _ => none
  | _ => none

theorem text?_of_evaluated? {request : Request Custom} {text : String}
    (evaluates : request.evaluated? = some text) : request.text? = some text ∧ text ≠ "" := by
  have proper {other : Option String} (kept : other.filter (· != "") = some text) :
      other = some text ∧ text ≠ "" := by
    rcases Option.filter_eq_some_iff.mp kept with ⟨same, nonempty⟩
    exact ⟨same, by simpa using nonempty⟩
  cases request with
  | parse other => contradiction
  | analyze => contradiction
  | evaluate other => exact proper evaluates
  | normalize other => exact proper evaluates
  | render reference scope other =>
      rw [evaluated?] at evaluates
      split at evaluates
      · exact proper evaluates
      · contradiction

end Request

namespace Engine

@[simp]
theorem registry_report (engine : Engine Custom) (marks : List Mark) :
    (engine.report marks).registry = engine.registry := rfl

@[simp]
theorem cache_report (engine : Engine Custom) (marks : List Mark) :
    (engine.report marks).cache = engine.cache := rfl

@[simp]
theorem spelling?_report (engine : Engine Custom) (marks : List Mark) (selection : Selection) :
    (engine.report marks).spelling? selection = engine.spelling? selection := rfl

@[simp]
theorem registry_remember (engine : Engine Custom) (selection : Selection) (text : String) :
    (engine.remember selection text).registry = engine.registry := by
  unfold remember
  split <;> rfl

@[simp]
theorem cache_remember (engine : Engine Custom) (selection : Selection) (text : String) :
    (engine.remember selection text).cache = engine.cache := by
  unfold remember
  split <;> rfl

theorem spelling?_remember (engine : Engine Custom) (selection other : Selection) (text : String) :
    (engine.remember selection text).spelling? other =
      (engine.spelling? other).or (if other = selection then some text else none) := by
  unfold remember spelling?
  split
  · rename_i known
    by_cases same : other = selection
    · rcases Option.isSome_iff_exists.mp known with ⟨spelling, found⟩
      rw [same, found, Option.some_or]
    · rw [if_neg same, Option.or_none]
  · rw [List.lookup_append]
    congr 1
    by_cases same : other = selection
    · simp [same]
    · simp [same, List.lookup_cons, beq_false_of_ne same]

def noting (engine : Engine Custom) (text : String) (condition : Condition) (selection : Selection) :
    Engine Custom :=
  (engine.report (condition.evaluate engine.registry).marks).remember selection text

@[simp]
theorem registry_noting (engine : Engine Custom) (text : String) (condition : Condition)
    (selection : Selection) : (engine.noting text condition selection).registry = engine.registry := by
  simp [noting]

@[simp]
theorem cache_noting (engine : Engine Custom) (text : String) (condition : Condition)
    (selection : Selection) : (engine.noting text condition selection).cache = engine.cache := by
  simp [noting]

theorem spelling?_noting (engine : Engine Custom) (text : String) (condition : Condition)
    (selection other : Selection) :
    (engine.noting text condition selection).spelling? other =
      (engine.spelling? other).or (if other = selection then some text else none) := by
  rw [noting, spelling?_remember, spelling?_report]

theorem spelling?_noting_self (engine : Engine Custom) (text : String) (condition : Condition)
    (selection : Selection) :
    (engine.noting text condition selection).spelling? selection =
      some ((engine.spelling? selection).getD text) := by
  rw [spelling?_noting, if_pos rfl, Option.or_some]

theorem evaluate_of_parse_eq_error {engine : Engine Custom} {text : Option String} {cause : Error}
    (read : Condition.parse engine.registry text = .error cause) :
    engine.evaluate text = (.error cause, engine) := by
  unfold evaluate
  rw [parse, read]

theorem evaluate_of_parse_eq_ok {engine : Engine Custom} {text : String} {condition : Condition}
    {selection : Selection} (nonempty : text ≠ "")
    (read : Condition.parse engine.registry (some text) = .ok condition)
    (result : (condition.evaluate engine.registry).result = .ok selection) :
    engine.evaluate (some text) = (.ok selection, engine.noting text condition selection) := by
  unfold evaluate
  rw [parse, read]
  simp only [result]
  rfl

theorem evaluate_of_empty (engine : Engine Custom) {text : Option String}
    (empty : text.filter (· != "") = none) : engine.evaluate text = (.ok (.constant true), engine) := by
  cases text with
  | none => rfl
  | some text =>
      have blank : text = "" := by simpa using empty
      subst blank
      unfold evaluate
      rw [parse, Condition.parse_empty]
      rfl

theorem normalize_of_empty (engine : Engine Custom) {text : Option String}
    (empty : text.filter (· != "") = none) : engine.normalize text = (.ok "", engine) := by
  cases text with
  | none => rfl
  | some text =>
      have blank : text = "" := by simpa using empty
      subst blank
      rfl

theorem normalize_of_parse_eq_error {engine : Engine Custom} {text : String} {cause : Error}
    (nonempty : text ≠ "") (read : Condition.parse engine.registry (some text) = .error cause) :
    engine.normalize (some text) = (.error cause, engine) := by
  unfold normalize
  simp only [evaluate_of_parse_eq_error read]

theorem normalize_of_parse_eq_ok {engine : Engine Custom} {text : String} {condition : Condition}
    {selection : Selection} (nonempty : text ≠ "")
    (read : Condition.parse engine.registry (some text) = .ok condition)
    (result : (condition.evaluate engine.registry).result = .ok selection) :
    engine.normalize (some text) =
      (.ok ((engine.spelling? selection).getD text), engine.noting text condition selection) := by
  unfold normalize
  simp only [evaluate_of_parse_eq_ok nonempty read result]
  rw [spelling?_noting_self, Option.getD_some]

variable [AtomWriter Custom]

def rendering (engine : Engine Custom) (key : CacheKey Custom) : Traced Error String :=
  Variants.render engine.registry key.template key.scope (engine.spelling? key.selection)

theorem rendering_noting {engine : Engine Custom} {key : CacheKey Custom}
    (known : (engine.spelling? key.selection).isSome) (text : String) (condition : Condition)
    (selection : Selection) :
    (engine.noting text condition selection).rendering key = engine.rendering key := by
  rcases Option.isSome_iff_exists.mp known with ⟨spelling, found⟩
  rw [rendering, rendering, registry_noting, spelling?_noting, found, Option.some_or]

variable [DecidableEq Custom]

def fetch (engine : Engine Custom) (key : CacheKey Custom) :
    Traced Error String × Engine Custom :=
  let fetched := engine.cache.fetch key fun _ => engine.rendering key
  (fetched.1, { engine with cache := fetched.2 }.report fetched.1.marks)

@[simp]
theorem registry_fetch (engine : Engine Custom) (key : CacheKey Custom) :
    (engine.fetch key).2.registry = engine.registry := rfl

@[simp]
theorem spelling?_fetch (engine : Engine Custom) (key : CacheKey Custom) (selection : Selection) :
    (engine.fetch key).2.spelling? selection = engine.spelling? selection := rfl

theorem renderWith_of_empty (engine : Engine Custom) (template : Template Custom) (scope : String)
    {text : Option String} (empty : text.filter (· != "") = none) :
    engine.renderWith template scope text = (.ok "", engine) := by
  cases text with
  | none => rfl
  | some text =>
      have blank : text = "" := by simpa using empty
      subst blank
      rfl

theorem renderWith_of_parse_eq_error {engine : Engine Custom} {text : String} {cause : Error}
    (template : Template Custom) (scope : String) (nonempty : text ≠ "")
    (read : Condition.parse engine.registry (some text) = .error cause) :
    engine.renderWith template scope (some text) = (.error cause, engine) := by
  unfold renderWith
  simp only [evaluate_of_parse_eq_error read]

theorem renderWith_of_parse_eq_ok {engine : Engine Custom} {text : String} {condition : Condition}
    {selection : Selection} (template : Template Custom) (scope : String) (nonempty : text ≠ "")
    (read : Condition.parse engine.registry (some text) = .ok condition)
    (result : (condition.evaluate engine.registry).result = .ok selection) :
    engine.renderWith template scope (some text) =
      (((engine.noting text condition selection).fetch ⟨scope, selection, template⟩).1.result,
        ((engine.noting text condition selection).fetch ⟨scope, selection, template⟩).2) := by
  unfold renderWith
  simp only [evaluate_of_parse_eq_ok nonempty read result]
  have spelled : some (((engine.noting text condition selection).spelling? selection).getD text) =
      (engine.noting text condition selection).spelling? selection := by
    rw [spelling?_noting_self, Option.getD_some]
  rw [spelled]
  rfl

theorem perform_render_of_error {reference : TemplateRef Custom} {cause : Error}
    (unknown : reference.resolve = .error cause) (engine : Engine Custom) (scope : String)
    (text : Option String) : engine.perform (.render reference scope text) = (.error cause, engine) := by
  rw [perform, render, unknown]
  rfl

theorem perform_render_of_ok {reference : TemplateRef Custom} {template : Template Custom}
    (known : reference.resolve = .ok template) (engine : Engine Custom) (scope : String)
    (text : Option String) :
    engine.perform (.render reference scope text) =
      ((engine.renderWith template scope text).1.map .text,
        (engine.renderWith template scope text).2) := by
  rw [perform, render, known]

/-- What a request makes of an engine. -/
inductive Becomes (engine : Engine Custom) (request : Request Custom) : Engine Custom → Prop
  | same
      (unread : ∀ text, request.evaluated? = some text →
        ∃ cause, Condition.parse engine.registry (some text) = .error cause) :
      Becomes engine request engine
  | noted {text : String} {condition : Condition} {selection : Selection}
      (evaluates : request.evaluated? = some text)
      (read : Condition.parse engine.registry (some text) = .ok condition)
      (result : (condition.evaluate engine.registry).result = .ok selection)
      (unrendered : request.key? selection = none) :
      Becomes engine request (engine.noting text condition selection)
  | fetched {text : String} {condition : Condition} {selection : Selection} {key : CacheKey Custom}
      (evaluates : request.evaluated? = some text)
      (read : Condition.parse engine.registry (some text) = .ok condition)
      (result : (condition.evaluate engine.registry).result = .ok selection)
      (rendered : request.key? selection = some key) :
      Becomes engine request ((engine.noting text condition selection).fetch key).2

theorem Becomes.of_silent {engine : Engine Custom} {request : Request Custom}
    (silent : request.evaluated? = none) : engine.Becomes request engine := by
  apply Becomes.same
  intro text evaluates
  rw [silent] at evaluates
  contradiction

theorem Becomes.of_error {engine : Engine Custom} {request : Request Custom} {text : String}
    {cause : Error} (evaluates : request.evaluated? = some text)
    (read : Condition.parse engine.registry (some text) = .error cause) :
    engine.Becomes request engine := by
  apply Becomes.same
  intro other same
  rw [evaluates, Option.some.injEq] at same
  exact ⟨cause, same ▸ read⟩

theorem becomes_perform (engine : Engine Custom) (request : Request Custom) :
    engine.Becomes request (engine.perform request).2 := by
  cases request with
  | parse text => exact .of_silent rfl
  | analyze => exact .of_silent rfl
  | evaluate text =>
      rcases Condition.reading_cases engine.registry text with
        empty | ⟨words, cause, rfl, nonempty, read⟩ |
          ⟨words, condition, selection, rfl, nonempty, read, result⟩
      · rw [perform, evaluate_of_empty engine empty]
        exact .of_silent empty
      · rw [perform, evaluate_of_parse_eq_error read]
        exact .of_error (by simp [Request.evaluated?, nonempty]) read
      · rw [perform, evaluate_of_parse_eq_ok nonempty read result]
        exact .noted (by simp [Request.evaluated?, nonempty]) read result rfl
  | normalize text =>
      rcases Condition.reading_cases engine.registry text with
        empty | ⟨words, cause, rfl, nonempty, read⟩ |
          ⟨words, condition, selection, rfl, nonempty, read, result⟩
      · rw [perform, normalize_of_empty engine empty]
        exact .of_silent empty
      · rw [perform, normalize_of_parse_eq_error nonempty read]
        exact .of_error (by simp [Request.evaluated?, nonempty]) read
      · rw [perform, normalize_of_parse_eq_ok nonempty read result]
        exact .noted (by simp [Request.evaluated?, nonempty]) read result rfl
  | render reference scope text =>
      cases resolved : reference.resolve with
      | error cause =>
          rw [perform_render_of_error resolved]
          exact .of_silent (by simp only [Request.evaluated?, resolved])
      | ok template =>
          rw [perform_render_of_ok resolved]
          rcases Condition.reading_cases engine.registry text with
            empty | ⟨words, cause, rfl, nonempty, read⟩ |
              ⟨words, condition, selection, rfl, nonempty, read, result⟩
          · rw [renderWith_of_empty engine template scope empty]
            exact .of_silent (by simp only [Request.evaluated?, resolved, empty])
          · rw [renderWith_of_parse_eq_error template scope nonempty read]
            exact .of_error (by simp [Request.evaluated?, resolved, nonempty]) read
          · rw [renderWith_of_parse_eq_ok template scope nonempty read result]
            exact .fetched (by simp [Request.evaluated?, resolved, nonempty]) read result
              (by simp only [Request.key?, resolved])

end Engine

end Variants
