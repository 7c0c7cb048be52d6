import Variants.Proofs.Engine.Usage
import Variants.Proofs.Template.Failure

/-!
Steps that fail. A request is refused for an unknown template or for what is wrong with its text, and
then the engine stays what it was. Any other failure is raised by the template of a rendering: the text
has been evaluated by then, and the rendering has been counted, but nothing else is left of it.
-/

namespace Variants

variable {Custom : Type}

theorem Usage.markAll_eq_self {usage : Usage} {marks : List Mark}
    (known : ∀ mark ∈ marks, mark ∈ usage.marks) : usage.markAll marks = usage := by
  induction marks with
  | nil => rfl
  | cons first rest ih =>
      have present : usage.marks.contains first = true := by
        simpa using known first List.mem_cons_self
      have unchanged : usage.mark first = usage := by rw [Usage.mark, if_pos present]
      have later : ∀ mark ∈ rest, mark ∈ usage.marks := fun mark member =>
        known mark (List.mem_cons_of_mem first member)
      calc
        usage.markAll (first :: rest) = (usage.mark first).markAll rest := rfl
        _ = usage.markAll rest := by rw [unchanged]
        _ = usage := ih later

namespace Request

/-- Why a request is refused: its template is unknown, or something is wrong with its text. -/
def refusal? (registry : Registry) : Request Custom → Option Error
  | parse text | evaluate text | normalize text => defect? registry text
  | render reference _ text =>
    match reference.resolve with
    | .error cause => some cause
    | .ok _ => defect? registry text
  | analyze => none

end Request

theorem parse_eq_error_iff {registry : Registry} {text : Option String} {cause : Error} :
    Condition.parse registry text = .error cause ↔ defect? registry text = some cause :=
  (failsWith_parse registry text).eq_error_iff

theorem defect?_of_parse_eq_ok {registry : Registry} {text : Option String} {condition : Condition}
    (read : Condition.parse registry text = .ok condition) : defect? registry text = none := by
  rw [Option.eq_none_iff_forall_ne_some]
  intro cause wrong
  rw [parse_eq_error_iff.mpr wrong] at read
  contradiction

theorem nonempty_of_defect? {registry : Registry} {text : Option String} {cause : Error}
    (wrong : defect? registry text = some cause) :
    ∃ words, text = some words ∧ words ≠ "" ∧
      Condition.parse registry (some words) = .error cause := by
  have failed := parse_eq_error_iff.mpr wrong
  rcases Condition.reading_cases registry text with
    empty | ⟨words, other, rfl, nonempty, _⟩ | ⟨words, condition, _, rfl, _, read, _⟩
  · cases text with
    | none => contradiction
    | some words =>
        have blank : words = "" := by simpa using empty
        subst blank
        contradiction
  · exact ⟨words, rfl, nonempty, failed⟩
  · rw [read] at failed
    contradiction

namespace Engine

/-- Every remembered text has the selection that it is remembered for. -/
def Spells (engine : Engine Custom) : Prop :=
  ∀ selection spelling, engine.spelling? selection = some spelling →
    Condition.selection? engine.registry spelling = some selection

theorem Spells.noting {engine : Engine Custom} (spells : engine.Spells) {text : String}
    {condition : Condition} {selection : Selection}
    (states : Condition.selection? engine.registry text = some selection) :
    (engine.noting text condition selection).Spells := by
  intro other spelling found
  rw [registry_noting]
  rw [spelling?_noting, Option.or_eq_some_iff] at found
  rcases found with known | ⟨_, new⟩
  · exact spells other spelling known
  · split at new
    · rename_i same
      rw [same, ← Option.some.inj new, states]
    · contradiction

def missing (engine : Engine Custom) : Engine Custom :=
  { engine with cache := { engine.cache with misses := engine.cache.misses + 1 } }

variable [AtomWriter Custom] [DecidableEq Custom]

theorem spells_after_fresh (registry : Registry) (requests : List (Request Custom)) :
    (after ({ registry } : Engine Custom) requests).Spells := by
  intro selection spelling found
  rw [spelling?_after_fresh] at found
  rw [registry_after]
  exact selection?_of_firstSpelling found

theorem marked_after_fresh (registry : Registry) (requests : List (Request Custom)) :
    (after ({ registry } : Engine Custom) requests).Marked := by
  have run : ∀ engine : Engine Custom, engine.Marked → (engine.after requests).Marked := by
    induction requests with
    | nil => exact fun _ marked => marked
    | cons request rest ih =>
        intro engine marked
        exact ih _ (marked.becomes (engine.becomes_perform request))
  exact run _ (marked_fresh registry)

theorem Marked.fetch_of_error {engine : Engine Custom} (marked : engine.Marked)
    {key : CacheKey Custom} {cause : Error}
    (fails : (engine.fetch key).1.result = .error cause) :
    (engine.rendering key).result = .error cause ∧ (engine.fetch key).2 = engine.missing := by
  cases kept : engine.cache.find? key with
  | some text =>
      have succeeds : (engine.fetch key).1.result = .ok text := Cache.result_fetch_of_kept kept
      rw [succeeds] at fails
      contradiction
  | none =>
      have same : (engine.fetch key).1.result = (engine.rendering key).result :=
        Cache.result_fetch_of_absent kept
      have rendered : (engine.rendering key).result = .error cause := same.symm.trans fails
      have fetched : engine.cache.fetch key (fun _ => engine.rendering key) =
          (engine.rendering key, engine.missing.cache) := Cache.fetch_of_error kept rendered
      have known : ∀ mark ∈ (engine.fetch key).1.marks, mark ∈ engine.usage.marks := by
        intro mark member
        apply (marked.mem_usage_fetch_iff key).mp
        exact Usage.mem_markAll_iff.mpr (.inr member)
      refine ⟨rendered, ?_⟩
      calc
        (engine.fetch key).2 =
            { engine with
              cache := (engine.cache.fetch key fun _ => engine.rendering key).2
              usage := engine.usage.markAll (engine.fetch key).1.marks } := rfl
        _ = engine.missing := by rw [fetched, Usage.markAll_eq_self known]; rfl

theorem perform_of_refusal {engine : Engine Custom} {request : Request Custom} {cause : Error}
    (refused : request.refusal? engine.registry = some cause) :
    engine.perform request = (.error cause, engine) := by
  cases request with
  | parse text =>
      have failed : engine.parse text = .error cause := parse_eq_error_iff.mpr refused
      rw [perform, failed]
      rfl
  | analyze => contradiction
  | evaluate text =>
      have failed := parse_eq_error_iff.mpr refused
      rw [perform, evaluate_of_parse_eq_error failed]
      rfl
  | normalize text =>
      rcases nonempty_of_defect? refused with ⟨words, rfl, nonempty, failed⟩
      rw [perform, normalize_of_parse_eq_error nonempty failed]
      rfl
  | render reference scope text =>
      cases resolved : reference.resolve with
      | error other =>
          simp only [Request.refusal?, resolved, Option.some.injEq] at refused
          rw [perform_render_of_error resolved, refused]
      | ok template =>
          simp only [Request.refusal?, resolved] at refused
          rcases nonempty_of_defect? refused with ⟨words, rfl, nonempty, failed⟩
          rw [perform_render_of_ok resolved,
            renderWith_of_parse_eq_error template scope nonempty failed]
          rfl

/-- A step of a rendering that its template makes fail leaves what evaluating its text leaves, with one
more rendering looked for in vain. -/
structure RaisedBy (engine : Engine Custom) (request : Request Custom) (cause : Error)
    (reference : TemplateRef Custom) (template : Template Custom) (scope text : String) : Prop where
  asked : request = .render reference scope (some text)
  known : reference.resolve = .ok template
  raises : template.Raises scope cause
  leaves : (engine.perform request).2 = (engine.evaluate (some text)).2.missing

theorem exists_raisedBy {engine : Engine Custom} (marked : engine.Marked) (spells : engine.Spells)
    {request : Request Custom} {cause : Error}
    (accepted : request.refusal? engine.registry = none)
    (failed : (engine.perform request).1 = .error cause) :
    ∃ reference template scope text,
      engine.RaisedBy request cause reference template scope text := by
  -- What is accepted can be read, and then only a rendering can fail.
  have unread {text : Option String} {words : String} {other : Error} (same : text = some words)
      (sound : defect? engine.registry text = none)
      (read : Condition.parse engine.registry (some words) = .error other) : False := by
    rw [same, parse_eq_error_iff.mp read] at sound
    contradiction
  cases request with
  | parse text =>
      have read : engine.parse text = .error cause := by
        cases outcome : engine.parse text with
        | error other => simpa [perform, outcome, Except.map] using failed
        | ok condition => simp [perform, outcome, Except.map] at failed
      have wrong : defect? engine.registry text = some cause := parse_eq_error_iff.mp read
      rw [Request.refusal?, wrong] at accepted
      contradiction
  | analyze => contradiction
  | evaluate text =>
      rcases Condition.reading_cases engine.registry text with
        empty | ⟨words, other, same, _, read⟩ | ⟨words, condition, selection, rfl, nonempty, read, result⟩
      · rw [perform, evaluate_of_empty engine empty] at failed
        contradiction
      · exact (unread same accepted read).elim
      · rw [perform, evaluate_of_parse_eq_ok nonempty read result] at failed
        contradiction
  | normalize text =>
      rcases Condition.reading_cases engine.registry text with
        empty | ⟨words, other, same, _, read⟩ | ⟨words, condition, selection, rfl, nonempty, read, result⟩
      · rw [perform, normalize_of_empty engine empty] at failed
        contradiction
      · exact (unread same accepted read).elim
      · rw [perform, normalize_of_parse_eq_ok nonempty read result] at failed
        contradiction
  | render reference scope text =>
      cases resolved : reference.resolve with
      | error other => simp [Request.refusal?, resolved] at accepted
      | ok template =>
          simp only [Request.refusal?, resolved] at accepted
          rcases Condition.reading_cases engine.registry text with
            empty | ⟨words, other, same, _, read⟩ |
              ⟨words, condition, selection, rfl, nonempty, read, result⟩
          · rw [perform_render_of_ok resolved, renderWith_of_empty engine template scope empty] at failed
            contradiction
          · exact (unread same accepted read).elim
          · have performed := perform_render_of_ok resolved engine scope (some words)
            rw [renderWith_of_parse_eq_ok template scope nonempty read result] at performed
            rw [performed] at failed
            have states := Condition.selection?_of_parse_eq_ok read result
            have fetchFails := Outcome.map_eq_error_iff.mp failed
            rcases (marked.noting read selection).fetch_of_error fetchFails with ⟨rendering, leaves⟩
            have spelled := spelling?_noting_self engine words condition selection
            have noted : (engine.noting words condition selection).Spells := spells.noting states
            have readable := noted selection _ spelled
            rcases Condition.exists_parse_of_selection?_eq_some readable with ⟨_, spellingRead, _⟩
            rw [Engine.rendering, spelled] at rendering
            refine ⟨reference, template, scope, words, rfl, resolved, ?_, ?_⟩
            · exact raises_of_render_eq_error (defect?_of_parse_eq_ok spellingRead) rendering
            · rw [performed, evaluate_of_parse_eq_ok nonempty read result]
              exact leaves

/-- A step of a run that is refused leaves the engine as it was. A step that fails in spite of being
accepted is a rendering whose template raises the failure; it leaves what evaluating the text leaves, with
one more rendering looked for in vain. -/
theorem failed_step_leaves (registry : Registry) (requests : List (Request Custom))
    (request : Request Custom) (cause : Error) :
    let engine := after ({ registry } : Engine Custom) requests
    (request.refusal? registry = some cause → engine.perform request = (.error cause, engine)) ∧
      ((engine.perform request).1 = .error cause →
        request.refusal? registry = some cause ∨
          request.refusal? registry = none ∧ ∃ reference template scope text,
            engine.RaisedBy request cause reference template scope text) := by
  intro engine
  have same : engine.registry = registry := registry_after _ requests
  constructor
  · intro refused
    exact perform_of_refusal (same.symm ▸ refused)
  · intro failed
    cases refused : request.refusal? registry with
    | some other =>
        have performed : engine.perform request = (.error other, engine) :=
          perform_of_refusal (same.symm ▸ refused)
        rw [performed, Except.error.injEq] at failed
        exact .inl (by rw [failed])
    | none =>
        right
        refine ⟨rfl, ?_⟩
        exact exists_raisedBy (marked_after_fresh registry requests)
          (spells_after_fresh registry requests) (same.symm ▸ refused) failed

theorem failed_step_leaves_of_example :
    let brokenGroups : Template := { Template.label with name := "broken", group := "(\x7b1\x7d)" }
    let engine := after ({ registry := Example.registry } : Engine) [.label (some "Debug & x86")]
    let unknown : Request := .render (.named "broken") "zlib" (some "x86 & Debug")
    let broken : Request := .render (.custom brokenGroups) "zlib" (some "woa | (x86)")
    let noSlot := Error.pattern (.noArgument 1)
    (unknown.refusal? Example.registry = some (.unknownTemplate "broken") ∧
        engine.perform unknown = (.error (.unknownTemplate "broken"), engine)) ∧
      (engine.perform broken).1 = .error noSlot ∧
        (broken.refusal? Example.registry = some noSlot ∨
          broken.refusal? Example.registry = none ∧ ∃ reference template scope text,
            engine.RaisedBy broken noSlot reference template scope text) := by
  intro brokenGroups engine unknown broken noSlot
  have refused : unknown.refusal? Example.registry = some (.unknownTemplate "broken") := by
    decide +kernel
  have failed : (engine.perform broken).1 = .error noSlot := by decide +kernel
  have unknownLeaves := failed_step_leaves Example.registry [.label (some "Debug & x86")] unknown
    (.unknownTemplate "broken")
  have brokenLeaves := failed_step_leaves Example.registry [.label (some "Debug & x86")] broken noSlot
  exact ⟨⟨refused, unknownLeaves.1 refused⟩, failed, brokenLeaves.2 failed⟩

end Engine

end Variants
