import Variants.Proofs.Engine.Run

/-!
Renderings and the cache. Every cached text is what a fresh rendering of the text remembered for its
selection gives, and the remembered text never changes, so it does not matter whether a rendering
comes from the cache.
-/

namespace Variants

namespace Cache

variable {κ ε : Type} [BEq κ] {cache : Cache κ} {key : κ} {render : Unit → Traced ε String}

theorem fetch_of_kept {text : String} (kept : cache.find? key = some text) :
    cache.fetch key render = (pure text, { cache with hits := cache.hits + 1 }) := by
  rw [fetch, kept]

theorem fetch_of_ok {text : String} (absent : cache.find? key = none)
    (rendered : (render ()).result = .ok text) :
    cache.fetch key render =
      (render (), { cache with
        entries := cache.entries ++ [(key, text)], misses := cache.misses + 1 }) := by
  rw [fetch, absent]
  simp only [rendered]

theorem fetch_of_error {cause : ε} (absent : cache.find? key = none)
    (failed : (render ()).result = .error cause) :
    cache.fetch key render = (render (), { cache with misses := cache.misses + 1 }) := by
  rw [fetch, absent]
  simp only [failed]

theorem result_fetch_of_kept {text : String} (kept : cache.find? key = some text) :
    (cache.fetch key render).1.result = .ok text := by
  rw [fetch_of_kept kept]
  rfl

theorem result_fetch_of_absent (absent : cache.find? key = none) :
    (cache.fetch key render).1.result = (render ()).result := by
  cases rendered : (render ()).result with
  | error cause => rw [fetch_of_error absent rendered, rendered]
  | ok text => rw [fetch_of_ok absent rendered, rendered]

theorem find?_fetch_eq_some [LawfulBEq κ] {other : κ} {text : String}
    (found : (cache.fetch key render).2.find? other = some text) :
    cache.find? other = some text ∨ other = key ∧ (render ()).result = .ok text := by
  cases kept : cache.find? key with
  | some old =>
      rw [fetch_of_kept kept] at found
      exact .inl found
  | none =>
      cases rendered : (render ()).result with
      | error cause =>
          rw [fetch_of_error kept rendered] at found
          exact .inl found
      | ok fresh =>
          rw [fetch_of_ok kept rendered, find?, List.lookup_append] at found
          rcases Option.or_eq_some_iff.mp found with old | ⟨_, new⟩
          · exact .inl old
          · right
            by_cases same : other = key
            · subst same
              rw [List.lookup_cons_self, Option.some.injEq] at new
              exact ⟨rfl, by rw [new]⟩
            · rw [List.lookup_cons, beq_false_of_ne same] at new
              contradiction

end Cache

namespace Request

theorem selection_of_key? {Custom : Type} {request : Request Custom} {selection : Selection}
    {key : CacheKey Custom} (rendered : request.key? selection = some key) :
    key.selection = selection := by
  cases request with
  | render reference scope text =>
      rw [key?] at rendered
      split at rendered
      · cases rendered
        rfl
      · contradiction
  | _ => contradiction

end Request

namespace Engine

variable {Custom : Type} [DecidableEq Custom] [AtomWriter Custom]

/-- Every entry of the cache is the rendering of the text remembered for its selection. -/
def Faithful (engine : Engine Custom) : Prop :=
  ∀ key text, engine.cache.find? key = some text →
    (engine.spelling? key.selection).isSome ∧ (engine.rendering key).result = .ok text

theorem faithful_fresh (registry : Registry) : Faithful ({ registry } : Engine Custom) := by
  intro key text found
  contradiction

theorem Faithful.noting {engine : Engine Custom} (faithful : engine.Faithful) (text : String)
    (condition : Condition) (selection : Selection) :
    (engine.noting text condition selection).Faithful := by
  intro key cached found
  rw [cache_noting] at found
  rcases faithful key cached found with ⟨known, rendered⟩
  rw [rendering_noting known, spelling?_noting]
  exact ⟨by simp [known], rendered⟩

theorem Faithful.result_fetch {engine : Engine Custom} (faithful : engine.Faithful)
    (key : CacheKey Custom) : (engine.fetch key).1.result = (engine.rendering key).result := by
  cases kept : engine.cache.find? key with
  | none => exact Cache.result_fetch_of_absent kept
  | some text =>
      rw [(faithful key text kept).2]
      exact Cache.result_fetch_of_kept kept

theorem Faithful.fetch {engine : Engine Custom} (faithful : engine.Faithful) {key : CacheKey Custom}
    (known : (engine.spelling? key.selection).isSome) : (engine.fetch key).2.Faithful := by
  intro other text found
  rcases Cache.find?_fetch_eq_some found with old | ⟨rfl, rendered⟩
  · exact faithful other text old
  · exact ⟨known, rendered⟩

theorem Faithful.becomes {engine next : Engine Custom} {request : Request Custom}
    (faithful : engine.Faithful) (becomes : engine.Becomes request next) : next.Faithful := by
  cases becomes with
  | same => exact faithful
  | noted => exact faithful.noting _ _ _
  | fetched _ _ _ rendered =>
      apply (faithful.noting _ _ _).fetch
      rw [Request.selection_of_key? rendered, spelling?_noting, if_pos rfl]
      simp

theorem Faithful.after {engine : Engine Custom} (faithful : engine.Faithful)
    (requests : List (Request Custom)) : (engine.after requests).Faithful := by
  induction requests generalizing engine with
  | nil => exact faithful
  | cons request rest ih => exact ih (faithful.becomes (engine.becomes_perform request))

theorem Faithful.perform_render {engine : Engine Custom} (faithful : engine.Faithful)
    {reference : TemplateRef Custom} {template : Template Custom} {text : String} {condition : Condition}
    {selection : Selection} (known : reference.resolve = .ok template) (nonempty : text ≠ "")
    (read : Condition.parse engine.registry (some text) = .ok condition)
    (result : (condition.evaluate engine.registry).result = .ok selection) (scope : String) :
    (engine.perform (.render reference scope (some text))).1 =
      (Variants.render engine.registry template scope
        (some ((engine.spelling? selection).getD text))).result.map .text := by
  rw [perform_render_of_ok known, renderWith_of_parse_eq_ok template scope nonempty read result,
    (faithful.noting _ _ _).result_fetch, rendering, spelling?_noting_self, registry_noting]

theorem history_getElem?_render_of_empty {registry : Registry} {requests : List (Request Custom)}
    {step : Nat} {reference : TemplateRef Custom} {template : Template Custom} {scope : String}
    {text : Option String} (asked : requests[step]? = some (.render reference scope text))
    (known : reference.resolve = .ok template) (empty : text.filter (· != "") = none) :
    (history ({ registry } : Engine Custom) requests)[step]?.map Prod.fst = some (.ok (.text "")) := by
  rw [history_getElem?, asked, Option.map_some, Option.map_some, perform_render_of_ok known,
    renderWith_of_empty _ template scope empty]
  rfl

theorem history_getElem?_render {registry : Registry} {requests : List (Request Custom)} {step : Nat}
    {reference : TemplateRef Custom} {template : Template Custom} {scope text : String}
    {condition : Condition} {selection : Selection}
    (asked : requests[step]? = some (.render reference scope (some text)))
    (known : reference.resolve = .ok template) (nonempty : text ≠ "")
    (read : Condition.parse registry (some text) = .ok condition)
    (result : (condition.evaluate registry).result = .ok selection) :
    (history ({ registry } : Engine Custom) requests)[step]?.map Prod.fst =
      some ((Variants.render registry template scope
        (some ((firstSpelling registry (requests.take step) selection).getD text))).result.map
          .text) := by
  have faithful : (Engine.after ({ registry } : Engine Custom) (requests.take step)).Faithful :=
    (faithful_fresh registry).after _
  have answer := faithful.perform_render known nonempty (by rwa [registry_after])
    (by rwa [registry_after]) scope
  rw [registry_after, spelling?_after_fresh] at answer
  rw [history_getElem?, asked, Option.map_some, Option.map_some]
  exact congrArg some answer

/-- In a run, a text renders as the first text of the run with its selection does without a cache. -/
theorem history_render_eq_render_firstSpelling (registry : Registry)
    (requests : List (Request Custom)) (step : Nat) {reference : TemplateRef Custom}
    {template : Template Custom} {scope text : String} {condition : Condition}
    (asked : requests[step]? = some (.render reference scope (some text)))
    (known : reference.resolve = .ok template) (nonempty : text ≠ "")
    (read : Condition.parse registry (some text) = .ok condition) :
    ∃ selection spelling, (condition.evaluate registry).result = .ok selection ∧
      firstSpelling registry (requests.take (step + 1)) selection = some spelling ∧
      (history ({ registry } : Engine Custom) requests)[step]?.map Prod.fst =
        some ((Variants.render registry template scope (some spelling)).result.map .text) := by
  rcases Condition.exists_evaluate_eq_ok read with ⟨selection, result⟩
  have evaluates : (Request.render reference scope (some text)).evaluated? = some text := by
    simp [Request.evaluated?, known, nonempty]
  have states := Condition.selection?_of_parse_eq_ok read result
  have first := firstSpelling_take_succ asked evaluates states
  refine ⟨selection, _, result, first, ?_⟩
  -- The answer is the rendering of what is remembered now, from the cache or not.
  have faithful : (Engine.after ({ registry } : Engine Custom) (requests.take step)).Faithful :=
    (faithful_fresh registry).after _
  have spelled := spelling?_noting_after asked evaluates read result
  rw [history_getElem?, asked, Option.map_some, Option.map_some, perform_render_of_ok known,
    renderWith_of_parse_eq_ok template scope nonempty (by rwa [registry_after])
      (by rwa [registry_after]),
    (faithful.noting _ _ _).result_fetch, rendering, spelled, first, registry_noting, registry_after]

theorem history_render_eq_render_firstSpelling_of_example :
    let condition := Condition.and (.choice "Platform" "Win32" false)
      (.choice "Configuration" "Debug" false)
    let requests : List Request :=
      [.normalize (some "Debug & x86"), .label (some "x86 & Debug")]
    let template : Template := .label
    Condition.parse Example.registry (some "x86 & Debug") = .ok condition ∧
      ∃ selection spelling, (condition.evaluate Example.registry).result = .ok selection ∧
        firstSpelling Example.registry (requests.take 2) selection = some spelling ∧
        (history ({ registry := Example.registry } : Engine) requests)[1]?.map Prod.fst =
          some ((Variants.render Example.registry template "" (some spelling)).result.map .text) := by
  exact ⟨Example.parse_platform_first, history_render_eq_render_firstSpelling Example.registry _ 1
    rfl rfl (by decide) Example.parse_platform_first⟩

end Engine

end Variants
