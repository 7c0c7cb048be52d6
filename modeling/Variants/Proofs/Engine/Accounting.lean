import Variants.Proofs.Engine.Rendering

/-!
What a cache has counted. Every step of a run that renders something is a hit or a miss; a miss makes an
entry, unless the rendering fails. What the cache holds is what these steps returned.
-/

namespace Variants

namespace Cache

variable {κ ε : Type} [BEq κ]

/-- What asking for the text of a key comes to, and the cache after it. -/
inductive Serves (cache : Cache κ) (key : κ) : Except ε String → Cache κ → Prop
  | hit {text : String} (kept : cache.find? key = some text) :
      Serves cache key (.ok text) { cache with hits := cache.hits + 1 }
  | made (text : String) (absent : cache.find? key = none) :
      Serves cache key (.ok text)
        { cache with entries := cache.entries ++ [(key, text)], misses := cache.misses + 1 }
  | failed {cause : ε} (absent : cache.find? key = none) :
      Serves cache key (.error cause) { cache with misses := cache.misses + 1 }

theorem serves_fetch (cache : Cache κ) (key : κ) (render : Unit → Traced ε String) :
    cache.Serves key (cache.fetch key render).1.result (cache.fetch key render).2 := by
  cases kept : cache.find? key with
  | some text =>
      rw [fetch_of_kept kept]
      exact .hit kept
  | none =>
      cases rendered : (render ()).result with
      | ok text =>
          rw [fetch_of_ok kept rendered, rendered]
          exact .made text kept
      | error cause =>
          rw [fetch_of_error kept rendered, rendered]
          exact .failed kept

namespace Serves

variable {cache next : Cache κ} {key : κ} {outcome : Except ε String}

theorem requests_eq (serves : cache.Serves key outcome next) :
    next.hits + next.misses = cache.hits + cache.misses + 1 := by
  cases serves with
  | hit => exact Nat.add_right_comm cache.hits 1 cache.misses
  | made => rfl
  | failed => rfl

theorem misses_eq (serves : cache.Serves key outcome next) :
    next.misses + cache.size = cache.misses + next.size + if outcome.isOk then 0 else 1 := by
  cases serves with
  | hit => rfl
  | made text =>
      have longer : (cache.entries ++ [(key, text)]).length = cache.entries.length + 1 :=
        List.length_append
      simp only [size, longer, Except.isOk, Except.toBool, if_true]
      omega
  | failed =>
      simp only [size, Except.isOk, Except.toBool, Bool.false_eq_true, if_false]
      omega

variable [LawfulBEq κ]

theorem find?_eq_some_iff (serves : cache.Serves key outcome next) {other : κ} {text : String} :
    next.find? other = some text ↔
      cache.find? other = some text ∨ other = key ∧ outcome = .ok text := by
  cases serves with
  | hit kept =>
      constructor
      · exact .inl
      · rintro (old | ⟨rfl, same⟩)
        · exact old
        · rw [← Except.ok.inj same]
          exact kept
  | failed absent =>
      constructor
      · exact .inl
      · rintro (old | ⟨rfl, same⟩)
        · exact old
        · contradiction
  | made fresh absent =>
      rw [find?, List.lookup_append]
      by_cases same : other = key
      · subst same
        rw [← find?, absent, Option.none_or, List.lookup_cons_self]
        simp
      · simp [find?, List.lookup_cons, beq_false_of_ne same, same]

theorem nodup_keys (serves : cache.Serves key outcome next)
    (distinct : (cache.entries.map Prod.fst).Nodup) : (next.entries.map Prod.fst).Nodup := by
  cases serves with
  | hit => exact distinct
  | failed => exact distinct
  | made fresh absent =>
      rw [List.map_append, List.nodup_append]
      refine ⟨distinct, List.nodup_singleton _, ?_⟩
      intro old member new isNew
      rcases List.mem_map.mp member with ⟨entry, present, rfl⟩
      rw [List.mem_singleton.mp isNew]
      have differs := List.lookup_eq_none_iff.mp absent entry present
      exact Ne.symm (by simpa using differs)

end Serves

theorem mem_keys_iff [LawfulBEq κ] {cache : Cache κ} {key : κ} :
    key ∈ cache.entries.map Prod.fst ↔ ∃ text, cache.find? key = some text := by
  rw [← Option.isSome_iff_exists, find?, List.lookup_isSome_iff, List.mem_map]
  constructor
  · rintro ⟨entry, present, rfl⟩
    exact ⟨entry, present, BEq.rfl⟩
  · rintro ⟨entry, present, same⟩
    exact ⟨entry, present, (eq_of_beq same).symm⟩

theorem mem_entries_of_find?_eq_some [LawfulBEq κ] {cache : Cache κ} {key : κ} {text : String}
    (kept : cache.find? key = some text) : (key, text) ∈ cache.entries := by
  rcases List.lookup_eq_some_iff.mp kept with ⟨before, after, split, _⟩
  rw [split]
  exact List.mem_append_right before List.mem_cons_self

end Cache

variable {Custom : Type}

/-- A step that renders a text which states a condition, in a known template. -/
structure RenderStep (Custom : Type) where
  scope : String
  condition : Condition
  template : Template Custom
  answer : Except Error Response

namespace RenderStep

def returned (step : RenderStep Custom) : Bool :=
  step.answer.isOk

/-- A step is answered under a key of the cache. -/
structure Under (registry : Registry) (step : RenderStep Custom) (key : CacheKey Custom) : Prop where
  scope : key.scope = step.scope
  selection : (step.condition.evaluate registry).result = .ok key.selection
  template : key.template = step.template

theorem Under.key_eq {registry : Registry} {step : RenderStep Custom} {key other : CacheKey Custom}
    (under : step.Under registry key) (underOther : step.Under registry other) : other = key := by
  rcases key with ⟨scope, selection, template⟩
  rcases other with ⟨otherScope, otherSelection, otherTemplate⟩
  have sameScope : otherScope = scope := underOther.scope.trans under.scope.symm
  have sameSelection : otherSelection = selection :=
    Except.ok.inj (underOther.selection.symm.trans under.selection)
  have sameTemplate : otherTemplate = template := underOther.template.trans under.template.symm
  rw [sameScope, sameSelection, sameTemplate]

structure HeldBy (registry : Registry) (step : RenderStep Custom) (entry : CacheKey Custom × String) :
    Prop where
  under : step.Under registry entry.1
  answer : step.answer = .ok (.text entry.2)

end RenderStep

def Request.renderStep? (registry : Registry) (answer : Except Error Response) :
    Request Custom → Option (RenderStep Custom)
  | render reference scope text => do
    let template ← reference.resolve.toOption
    let words ← text.filter (· != "")
    let condition ← (Condition.parse registry (some words)).toOption
    return ⟨scope, condition, template, answer⟩
  | _ => none

theorem Request.renderStep?_eq_some_iff {registry : Registry} {answer : Except Error Response}
    {request : Request Custom} {step : RenderStep Custom} :
    request.renderStep? registry answer = some step ↔
      ∃ reference words, request = .render reference step.scope (some words) ∧
        reference.resolve = .ok step.template ∧ words ≠ "" ∧
        Condition.parse registry (some words) = .ok step.condition ∧ answer = step.answer := by
  rcases step with ⟨scope, condition, template, stepAnswer⟩
  constructor
  · intro rendered
    cases request with
    | render reference requestScope text =>
        rcases Option.bind_eq_some_iff.mp rendered with ⟨found, known, afterTemplate⟩
        rcases Option.bind_eq_some_iff.mp afterTemplate with ⟨words, kept, afterWords⟩
        rcases Option.bind_eq_some_iff.mp afterWords with ⟨stated, read, same⟩
        rcases Option.filter_eq_some_iff.mp kept with ⟨rfl, nonempty⟩
        cases same
        exact ⟨reference, words, rfl, Outcome.toOption_eq_some_iff.mp known, by simpa using nonempty,
          Outcome.toOption_eq_some_iff.mp read, rfl⟩
    | _ => contradiction
  · rintro ⟨reference, words, rfl, known, nonempty, read, rfl⟩
    have kept : (some words).filter (· != "") = some words := by simp [nonempty]
    rw [renderStep?, known, kept, Except.toOption, Option.bind_eq_bind, Option.bind_some,
      Option.bind_eq_bind, Option.bind_some, read]
    rfl

namespace Engine

variable [DecidableEq Custom]

/-- What a cache holds, and what it has counted, is what some steps have made of it. -/
structure Accounts (registry : Registry) (cache : Cache (CacheKey Custom))
    (steps : List (RenderStep Custom)) : Prop where
  requests : cache.hits + cache.misses = steps.length
  misses : cache.misses = cache.size + steps.countP (!·.returned)
  distinct : (cache.entries.map Prod.fst).Nodup
  kept : ∀ key text, cache.find? key = some text ↔ ∃ step ∈ steps, step.HeldBy registry (key, text)

theorem accounts_fresh (registry : Registry) :
    Accounts registry ({ registry } : Engine Custom).cache [] where
  requests := rfl
  misses := rfl
  distinct := List.nodup_nil
  kept key text := by simp [Cache.find?]

theorem Accounts.serves {registry : Registry} {cache next : Cache (CacheKey Custom)}
    {steps : List (RenderStep Custom)} (accounts : Accounts registry cache steps)
    {step : RenderStep Custom} {key : CacheKey Custom} {outcome : Except Error String}
    (under : step.Under registry key) (answered : step.answer = outcome.map .text)
    (serves : cache.Serves key outcome next) : Accounts registry next (steps ++ [step]) where
  requests := by
    rw [serves.requests_eq, accounts.requests, List.length_append, List.length_singleton]
  misses := by
    have same : step.returned = outcome.isOk := by
      rw [RenderStep.returned, answered]
      cases outcome <;> rfl
    have counted := serves.misses_eq
    have before := accounts.misses
    rw [List.countP_append, List.countP_singleton, same]
    cases returned : outcome.isOk <;> simp [returned] at counted ⊢ <;> omega
  distinct := serves.nodup_keys accounts.distinct
  kept other text := by
    have heldBy : step.HeldBy registry (other, text) ↔ other = key ∧ outcome = .ok text := by
      have textual : step.answer = .ok (.text text) ↔ outcome = .ok text := by
        rw [answered]
        cases outcome with
        | error cause => simp [Except.map]
        | ok given => simp [Except.map]
      constructor
      · intro held
        exact ⟨under.key_eq held.under, textual.mp held.answer⟩
      · rintro ⟨rfl, given⟩
        exact ⟨under, textual.mpr given⟩
    rw [serves.find?_eq_some_iff, accounts.kept, ← heldBy]
    simp [or_and_right, exists_or]

variable [AtomWriter Custom]

def renderSteps (engine : Engine Custom) (requests : List (Request Custom)) : List (RenderStep Custom) :=
  (requests.zip (engine.history requests)).filterMap fun step =>
    step.1.renderStep? engine.registry step.2.1

theorem renderSteps_cons (engine : Engine Custom) (request : Request Custom)
    (rest : List (Request Custom)) :
    engine.renderSteps (request :: rest) =
      (request.renderStep? engine.registry (engine.perform request).1).toList ++
        (engine.perform request).2.renderSteps rest := by
  rw [renderSteps, history, List.zip_cons_cons, List.filterMap_cons, renderSteps, registry_perform]
  cases request.renderStep? engine.registry (engine.perform request).1 <;> rfl

theorem Becomes.cache_eq {engine next : Engine Custom} {request : Request Custom}
    (becomes : engine.Becomes request next) (silent : ∀ selection, request.key? selection = none) :
    next.cache = engine.cache := by
  cases becomes with
  | same => rfl
  | noted => exact cache_noting _ _ _ _
  | fetched _ _ _ rendered =>
      rw [silent] at rendered
      contradiction

theorem renderStep_cases (engine : Engine Custom) (request : Request Custom) :
    request.renderStep? engine.registry (engine.perform request).1 = none ∧
        (engine.perform request).2.cache = engine.cache ∨
      ∃ step key outcome,
        request.renderStep? engine.registry (engine.perform request).1 = some step ∧
          step.Under engine.registry key ∧ step.answer = outcome.map .text ∧
          engine.cache.Serves key outcome (engine.perform request).2.cache := by
  have becomes := engine.becomes_perform request
  cases request with
  | parse text => exact .inl ⟨rfl, rfl⟩
  | analyze => exact .inl ⟨rfl, rfl⟩
  | evaluate text => exact .inl ⟨rfl, becomes.cache_eq fun _ => rfl⟩
  | normalize text => exact .inl ⟨rfl, becomes.cache_eq fun _ => rfl⟩
  | render reference scope text =>
      cases resolved : reference.resolve with
      | error cause =>
          refine .inl ⟨?_, becomes.cache_eq fun _ => by simp only [Request.key?, resolved]⟩
          simp [Request.renderStep?, resolved, Except.toOption]
      | ok template =>
          rw [perform_render_of_ok resolved]
          rcases Condition.reading_cases engine.registry text with
            empty | ⟨words, cause, rfl, nonempty, read⟩ |
              ⟨words, condition, selection, rfl, nonempty, read, result⟩
          · left
            rw [renderWith_of_empty engine template scope empty]
            simp [Request.renderStep?, resolved, empty, Except.toOption]
          · left
            rw [renderWith_of_parse_eq_error template scope nonempty read]
            simp [Request.renderStep?, resolved, nonempty, read, Except.toOption]
          · right
            rw [renderWith_of_parse_eq_ok template scope nonempty read result]
            let key : CacheKey Custom := ⟨scope, selection, template⟩
            let noted := engine.noting words condition selection
            have served : noted.cache.Serves key (noted.fetch key).1.result (noted.fetch key).2.cache :=
              noted.cache.serves_fetch key fun _ => noted.rendering key
            refine ⟨⟨scope, condition, template, (noted.fetch key).1.result.map .text⟩, key,
              (noted.fetch key).1.result, ?_, ⟨rfl, result, rfl⟩, rfl, ?_⟩
            · exact Request.renderStep?_eq_some_iff.mpr
                ⟨reference, words, rfl, resolved, nonempty, read, rfl⟩
            · rw [show noted.cache = engine.cache from cache_noting _ _ _ _] at served
              exact served

theorem accounts_after (engine : Engine Custom) {steps : List (RenderStep Custom)}
    (accounts : Accounts engine.registry engine.cache steps) (requests : List (Request Custom)) :
    Accounts engine.registry (engine.after requests).cache (steps ++ engine.renderSteps requests) := by
  induction requests generalizing engine steps with
  | nil =>
      rw [renderSteps, List.zip_nil_left, List.filterMap_nil, List.append_nil]
      exact accounts
  | cons request rest ih =>
      have same := registry_perform engine request
      rw [renderSteps_cons, Engine.after]
      rcases engine.renderStep_cases request with
        ⟨none, unchanged⟩ | ⟨step, key, outcome, rendered, under, answered, serves⟩
      · rw [none, Option.toList_none, List.nil_append, ← same]
        apply ih
        rw [same, unchanged]
        exact accounts
      · rw [rendered, Option.toList_some, ← List.append_assoc, ← same]
        apply ih
        rw [same]
        exact accounts.serves under answered serves

theorem exists_of_mem_renderSteps {registry : Registry} {requests : List (Request Custom)}
    {step : RenderStep Custom}
    (member : step ∈ renderSteps ({ registry } : Engine Custom) requests) :
    ∃ earlier, ∃ request : Request Custom, request.renderStep? registry
      ((Engine.after ({ registry } : Engine Custom) earlier).perform request).1 = some step := by
  rcases List.mem_filterMap.mp member with ⟨⟨request, answered⟩, zipped, rendered⟩
  rcases List.mem_iff_getElem?.mp zipped with ⟨index, found⟩
  rw [List.getElem?_zip_eq_some, history_getElem?] at found
  rcases found with ⟨asked, answer⟩
  rw [asked, Option.map_some, Option.some.injEq] at answer
  exact ⟨requests.take index, request, by rw [answer]; exact rendered⟩

end Engine

end Variants
