import Variants.Proofs.Engine.Step

/-!
Runs of an engine. The registry stays what it was, and the text that is remembered for a selection is
the first one with that selection among the texts that the run evaluated.
-/

namespace Variants

variable {Custom : Type} {registry : Registry}

def Condition.selection? (registry : Registry) (text : String) : Option Selection :=
  match parse registry (some text) with
  | .ok condition => (condition.evaluate registry).result.toOption
  | .error _ => none

/-- The first text with a selection among the texts that requests evaluate. -/
def firstSpelling (registry : Registry) (requests : List (Request Custom)) (selection : Selection) :
    Option String :=
  (requests.filterMap Request.evaluated?).find? fun text =>
    Condition.selection? registry text = some selection

namespace Condition

theorem selection?_of_parse_eq_error {text : String} {cause : Error}
    (read : parse registry (some text) = .error cause) : selection? registry text = none := by
  rw [selection?, read]

theorem selection?_of_parse_eq_ok {text : String} {condition : Condition} {selection : Selection}
    (read : parse registry (some text) = .ok condition)
    (result : (condition.evaluate registry).result = .ok selection) :
    selection? registry text = some selection := by
  simp only [selection?, read, result]
  rfl

theorem exists_parse_of_selection?_eq_some {text : String} {selection : Selection}
    (states : selection? registry text = some selection) :
    ∃ condition, parse registry (some text) = .ok condition ∧
      (condition.evaluate registry).result = .ok selection := by
  cases read : parse registry (some text) with
  | error cause =>
      rw [selection?_of_parse_eq_error read] at states
      contradiction
  | ok condition =>
      rcases exists_evaluate_eq_ok read with ⟨other, result⟩
      rw [selection?_of_parse_eq_ok read result, Option.some.injEq] at states
      exact ⟨condition, rfl, states ▸ result⟩

end Condition

theorem firstSpelling_append (registry : Registry) (before after : List (Request Custom))
    (selection : Selection) :
    firstSpelling registry (before ++ after) selection =
      (firstSpelling registry before selection).or (firstSpelling registry after selection) := by
  rw [firstSpelling, List.filterMap_append, List.find?_append]
  rfl

theorem firstSpelling_cons (registry : Registry) (request : Request Custom)
    (requests : List (Request Custom)) (selection : Selection) :
    firstSpelling registry (request :: requests) selection =
      (firstSpelling registry [request] selection).or (firstSpelling registry requests selection) :=
  firstSpelling_append registry [request] requests selection

theorem firstSpelling_of_silent {request : Request Custom} {selection : Selection}
    (silent : ∀ text, request.evaluated? = some text →
      Condition.selection? registry text ≠ some selection) :
    firstSpelling registry [request] selection = none := by
  cases evaluates : request.evaluated? with
  | none => simp [firstSpelling, evaluates]
  | some text => simp [firstSpelling, evaluates, silent text evaluates]

theorem firstSpelling_of_evaluated {request : Request Custom} {text : String} {selection : Selection}
    (evaluates : request.evaluated? = some text)
    (states : Condition.selection? registry text = some selection) :
    firstSpelling registry [request] selection = some text := by
  simp [firstSpelling, evaluates, states]

theorem firstSpelling_take_succ {requests : List (Request Custom)} {step : Nat}
    {request : Request Custom} {text : String} {selection : Selection}
    (asked : requests[step]? = some request) (evaluates : request.evaluated? = some text)
    (states : Condition.selection? registry text = some selection) :
    firstSpelling registry (requests.take (step + 1)) selection =
      some ((firstSpelling registry (requests.take step) selection).getD text) := by
  rw [List.take_add_one, asked, Option.toList_some, firstSpelling_append,
    firstSpelling_of_evaluated evaluates states, Option.or_some]

theorem selection?_of_firstSpelling {requests : List (Request Custom)} {selection : Selection}
    {spelling : String} (first : firstSpelling registry requests selection = some spelling) :
    Condition.selection? registry spelling = some selection := by
  have states := List.find?_some first
  simpa using states

theorem exists_evaluated_of_firstSpelling {requests : List (Request Custom)} {selection : Selection}
    {spelling : String} (first : firstSpelling registry requests selection = some spelling) :
    ∃ request ∈ requests, request.evaluated? = some spelling :=
  List.mem_filterMap.mp (List.mem_of_find?_eq_some first)

namespace Engine

theorem spelling?_noting_of_evaluated {engine : Engine Custom} {request : Request Custom}
    {text : String} {condition : Condition} {stated : Selection}
    (evaluates : request.evaluated? = some text)
    (read : Condition.parse engine.registry (some text) = .ok condition)
    (result : (condition.evaluate engine.registry).result = .ok stated) (selection : Selection) :
    (engine.noting text condition stated).spelling? selection =
      (engine.spelling? selection).or (firstSpelling engine.registry [request] selection) := by
  have states := Condition.selection?_of_parse_eq_ok read result
  rw [spelling?_noting]
  by_cases same : selection = stated
  · rw [if_pos same, firstSpelling_of_evaluated evaluates (same ▸ states)]
  · rw [if_neg same, firstSpelling_of_silent]
    intro other again
    rw [evaluates, Option.some.injEq] at again
    rw [← again, states, ne_eq, Option.some.injEq]
    exact Ne.symm same

variable [DecidableEq Custom] [AtomWriter Custom]

/-- The engine after requests in a row. -/
def after (engine : Engine Custom) : List (Request Custom) → Engine Custom
  | [] => engine
  | request :: rest => (engine.perform request).2.after rest

theorem history_getElem? (engine : Engine Custom) (requests : List (Request Custom)) (step : Nat) :
    (engine.history requests)[step]? =
      requests[step]?.map (engine.after (requests.take step)).perform := by
  induction requests generalizing engine step with
  | nil => simp [history]
  | cons request rest ih =>
      cases step with
      | zero => rfl
      | succ step =>
          rw [history, List.getElem?_cons_succ, List.getElem?_cons_succ, List.take_succ_cons]
          exact ih _ step

theorem Becomes.registry_eq {engine next : Engine Custom} {request : Request Custom}
    (becomes : engine.Becomes request next) : next.registry = engine.registry := by
  cases becomes with
  | same => rfl
  | noted => rw [registry_noting]
  | fetched => rw [registry_fetch, registry_noting]

theorem Becomes.spelling?_eq {engine next : Engine Custom} {request : Request Custom}
    (becomes : engine.Becomes request next) (selection : Selection) :
    next.spelling? selection =
      (engine.spelling? selection).or (firstSpelling engine.registry [request] selection) := by
  cases becomes with
  | same unread =>
      rw [firstSpelling_of_silent, Option.or_none]
      intro text evaluates
      rcases unread text evaluates with ⟨cause, read⟩
      rw [Condition.selection?_of_parse_eq_error read]
      exact (Option.some_ne_none selection).symm
  | noted evaluates read result => exact spelling?_noting_of_evaluated evaluates read result selection
  | fetched evaluates read result =>
      rw [spelling?_fetch]
      exact spelling?_noting_of_evaluated evaluates read result selection

@[simp]
theorem registry_perform (engine : Engine Custom) (request : Request Custom) :
    (engine.perform request).2.registry = engine.registry :=
  (engine.becomes_perform request).registry_eq

@[simp]
theorem registry_after (engine : Engine Custom) (requests : List (Request Custom)) :
    (engine.after requests).registry = engine.registry := by
  induction requests generalizing engine with
  | nil => rfl
  | cons request rest ih => rw [after, ih, registry_perform]

theorem spelling?_after (engine : Engine Custom) (requests : List (Request Custom))
    (selection : Selection) :
    (engine.after requests).spelling? selection =
      (engine.spelling? selection).or (firstSpelling engine.registry requests selection) := by
  induction requests generalizing engine with
  | nil => rw [after, firstSpelling, List.filterMap_nil, List.find?_nil, Option.or_none]
  | cons request rest ih =>
      rw [after, ih, registry_perform, (engine.becomes_perform request).spelling?_eq,
        Option.or_assoc, ← firstSpelling_cons]

theorem spelling?_after_fresh (registry : Registry) (requests : List (Request Custom))
    (selection : Selection) :
    (after ({ registry } : Engine Custom) requests).spelling? selection =
      firstSpelling registry requests selection := by
  rw [spelling?_after]
  rfl

theorem spelling?_noting_after {requests : List (Request Custom)} {step : Nat}
    {request : Request Custom} {text : String} {condition : Condition} {selection : Selection}
    (asked : requests[step]? = some request) (evaluates : request.evaluated? = some text)
    (read : Condition.parse registry (some text) = .ok condition)
    (result : (condition.evaluate registry).result = .ok selection) :
    ((after ({ registry } : Engine Custom) (requests.take step)).noting text condition
      selection).spelling? selection =
      firstSpelling registry (requests.take (step + 1)) selection := by
  have states := Condition.selection?_of_parse_eq_ok read result
  rw [spelling?_noting_self, spelling?_after_fresh, firstSpelling_take_succ asked evaluates states]

end Engine

end Variants
