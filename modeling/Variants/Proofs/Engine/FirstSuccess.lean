import Mathlib.Data.Nat.Count
import Variants.Proofs.Engine.Sharing

/-!
A cache asked many times. The first rendering of a key that succeeds gives its text from then on; until then
every call renders. Hits, misses and entries are counted accordingly.
-/

namespace Variants

namespace Cache

structure Call (κ ε : Type) where
  key : κ
  render : Unit → Traced ε String

variable {κ ε : Type} [DecidableEq κ]

def answer (cache : Cache κ) (call : Call κ ε) : Traced ε String :=
  (cache.fetch call.key call.render).1

def next (cache : Cache κ) (call : Call κ ε) : Cache κ :=
  (cache.fetch call.key call.render).2

def after (cache : Cache κ) (calls : List (Call κ ε)) : Cache κ :=
  calls.foldl next cache

def log (cache : Cache κ) : List (Call κ ε) → List (Call κ ε × Traced ε String)
  | [] => []
  | call :: rest => (call, cache.answer call) :: (cache.next call).log rest

theorem calls_log (cache : Cache κ) (calls : List (Call κ ε)) : (cache.log calls).map Prod.fst = calls := by
  induction calls generalizing cache with
  | nil => rfl
  | cons call rest ih => exact congrArg (call :: ·) (ih _)

theorem log_getElem? (cache : Cache κ) (calls : List (Call κ ε)) (place : Nat) :
    (cache.log calls)[place]? =
      calls[place]?.map fun call => (call, (cache.after (calls.take place)).answer call) := by
  induction calls generalizing cache place with
  | nil => simp [log]
  | cons call rest ih =>
      cases place with
      | zero => rfl
      | succ place =>
          rw [log, List.getElem?_cons_succ, List.getElem?_cons_succ, List.take_succ_cons]
          exact ih _ place

theorem answer_of_absent {cache : Cache κ} {call : Call κ ε} (absent : cache.find? call.key = none) :
    cache.answer call = call.render () := by
  cases rendered : (call.render ()).result with
  | ok text => rw [answer, fetch_of_ok absent rendered]
  | error cause => rw [answer, fetch_of_error absent rendered]

theorem Serves.hits_eq {cache next : Cache κ} {key : κ} {outcome : Except ε String}
    (serves : cache.Serves key outcome next) :
    next.hits = cache.hits + if (cache.find? key).isSome then 1 else 0 := by
  cases serves with
  | hit kept => rw [kept, Option.isSome_some, if_pos rfl]
  | made text absent => rw [absent, Option.isSome_none, if_neg Bool.false_ne_true]; rfl
  | failed absent => rw [absent, Option.isSome_none, if_neg Bool.false_ne_true]; rfl

/-- A call on the key returned the text. -/
def Returned (log : List (Call κ ε × Traced ε String)) (key : κ) (text : String) : Prop :=
  ∃ step ∈ log, step.1.key = key ∧ step.2.result = .ok text

def returns (log : List (Call κ ε × Traced ε String)) (key : κ) : Bool :=
  log.any fun step => step.1.key == key && step.2.result.isOk

/-- Whether the call at a place repeats a key for which an earlier one returned. -/
def repeats (log : List (Call κ ε × Traced ε String)) (place : Nat) : Bool :=
  log[place]?.any fun step => returns (log.take place) step.1.key

/-- Whether the call at a place had to render and failed. -/
def raises (log : List (Call κ ε × Traced ε String)) (place : Nat) : Bool :=
  !repeats log place && log[place]?.any fun step => !(step.1.render ()).result.isOk

section Answers

variable {log : List (Call κ ε × Traced ε String)} {key : κ}

omit [DecidableEq κ] in
theorem returned_concat {step : Call κ ε × Traced ε String} {text : String} :
    Returned (log ++ [step]) key text ↔
      Returned log key text ∨ key = step.1.key ∧ step.2.result = .ok text := by
  rw [Returned]
  simp only [List.mem_append, List.mem_singleton, or_and_right, exists_or, exists_eq_left, @eq_comm κ key]
  rfl

theorem returns_iff : returns log key = true ↔ ∃ text, Returned log key text := by
  have succeeds (result : Except ε String) : result.isOk = true ↔ ∃ text, result = .ok text := by
    cases result <;> simp [Except.isOk, Except.toBool]
  simp only [returns, List.any_eq_true, Bool.and_eq_true, beq_iff_eq, succeeds, Returned]
  constructor
  · rintro ⟨step, member, same, text, gives⟩
    exact ⟨text, step, member, same, gives⟩
  · rintro ⟨text, step, member, same, gives⟩
    exact ⟨step, member, same, text, gives⟩

end Answers

/-- A cache holds and has counted what the calls before a place make of it. -/
structure Records (cache : Cache κ) (log : List (Call κ ε × Traced ε String)) (place : Nat) : Prop where
  kept : ∀ key text, cache.find? key = some text ↔ Returned (log.take place) key text
  distinct : (cache.entries.map Prod.fst).Nodup
  hits : cache.hits = Nat.count (fun earlier => repeats log earlier) place
  requests : cache.hits + cache.misses = place
  misses : cache.misses = cache.size + Nat.count (fun earlier => raises log earlier) place

namespace Records

variable {log : List (Call κ ε × Traced ε String)} {place : Nat} {cache : Cache κ} {call : Call κ ε}

theorem repeats_eq (records : cache.Records log place) {answer : Traced ε String}
    (here : log[place]? = some (call, answer)) : repeats log place = (cache.find? call.key).isSome := by
  rw [Bool.eq_iff_iff, repeats, here, Option.any_some, returns_iff, Option.isSome_iff_exists]
  simp only [records.kept]

theorem raises_eq (records : cache.Records log place) (here : log[place]? = some (call, cache.answer call)) :
    raises log place = !(cache.answer call).result.isOk := by
  rw [raises, records.repeats_eq here, here, Option.any_some]
  cases found : cache.find? call.key with
  | some text =>
      rw [answer, fetch_of_kept found]
      rfl
  | none =>
      rw [answer_of_absent found]
      rfl

theorem next (records : cache.Records log place) (here : log[place]? = some (call, cache.answer call)) :
    (cache.next call).Records log (place + 1) := by
  have serves : cache.Serves call.key (cache.answer call).result (cache.next call) :=
    cache.serves_fetch call.key call.render
  have taken : log.take (place + 1) = log.take place ++ [(call, cache.answer call)] := by
    rw [List.take_add_one, here]
    rfl
  refine ⟨?_, serves.nodup_keys records.distinct, ?_, ?_, ?_⟩
  · intro key text
    rw [serves.find?_eq_some_iff, records.kept, taken, returned_concat]
  · rw [serves.hits_eq, records.hits, Nat.count_succ, records.repeats_eq here]
  · rw [serves.requests_eq, records.requests]
  · have balanced := serves.misses_eq
    have before := records.misses
    rw [Nat.count_succ, records.raises_eq here]
    cases returned : (cache.answer call).result.isOk <;> simp [returned] at balanced ⊢ <;> omega

end Records

theorem records_after (calls : List (Call κ ε)) {place : Nat} (inside : place ≤ calls.length) :
    (({} : Cache κ).after (calls.take place)).Records (({} : Cache κ).log calls) place := by
  induction place with
  | zero =>
      refine ⟨?_, List.nodup_nil, (Nat.count_zero _).symm, rfl, ?_⟩
      · intro key text
        simp [after, find?, Returned]
      · rw [Nat.count_zero]
        rfl
  | succ place ih =>
      have records := ih (Nat.le_of_succ_le inside)
      have here := ({} : Cache κ).log_getElem? calls place
      rw [List.getElem?_eq_getElem inside, Option.map_some] at here
      have extended : ({} : Cache κ).after (calls.take (place + 1)) =
          (({} : Cache κ).after (calls.take place)).next calls[place] := by
        rw [List.take_add_one, List.getElem?_eq_getElem inside, after, List.foldl_append]
        rfl
      rw [extended]
      exact records.next here

/-- The first success of a key wins. A call on a key for which an earlier one returned gives the text of that
one, and nothing of its own rendering; any other call gives what its rendering does. Hits are the calls of the
first kind; the entries are the keys for which a call returned; the other misses are the calls that rendered
and failed, which leave nothing behind. -/
theorem first_success_wins (calls : List (Call κ ε)) :
    let log := ({} : Cache κ).log calls
    let cache := ({} : Cache κ).after calls
    log.map Prod.fst = calls ∧
      (∀ place call answer, log[place]? = some (call, answer) →
        (∀ text, Returned (log.take place) call.key text → answer = pure text) ∧
          ((∀ text, ¬ Returned (log.take place) call.key text) → answer = call.render ())) ∧
      cache.hits = Nat.count (fun place => repeats log place) calls.length ∧
      cache.hits + cache.misses = calls.length ∧
      cache.size = Set.ncard {key | ∃ text, Returned log key text} ∧
      cache.misses = cache.size + Nat.count (fun place => raises log place) calls.length ∧
      ∀ key text, cache.find? key = some text ↔ Returned log key text := by
  intro log cache
  have asked : log.map Prod.fst = calls := calls_log {} calls
  have whole : log.take calls.length = log := by
    apply List.take_of_length_le
    rw [← asked, List.length_map]
  have records : cache.Records log calls.length := by
    have reached := records_after calls (Nat.le_refl calls.length)
    rwa [List.take_length] at reached
  have kept := records.kept
  rw [whole] at kept
  refine ⟨asked, ?_, records.hits, records.requests, ?_, records.misses, kept⟩
  · intro place call answer here
    rw [log_getElem?] at here
    rcases Option.map_eq_some_iff.mp here with ⟨_, found, same⟩
    cases same
    have inside : place ≤ calls.length := Nat.le_of_lt (List.getElem?_eq_some_iff.mp found).1
    have before := (records_after calls inside).kept call.key
    constructor
    · intro text returned
      rw [Cache.answer, fetch_of_kept ((before text).mpr returned)]
    · intro never
      apply answer_of_absent
      rw [Option.eq_none_iff_forall_ne_some]
      intro text found
      exact never text ((before text).mp found)
  · rw [size_eq_ncard records.distinct]
    simp only [kept]

theorem first_success_wins_of_example :
    let failed (key : Nat) : Call Nat String := ⟨key, fun _ => ⟨[("Platform", "ARM")], .error "failed"⟩⟩
    let rendered (key : Nat) (text : String) : Call Nat String :=
      ⟨key, fun _ => ⟨[("Platform", "x64")], .ok text⟩⟩
    let calls := [failed 1, rendered 1 "first", failed 2, rendered 1 "second", rendered 2 "third"]
    let log := ({} : Cache Nat).log calls
    let cache := ({} : Cache Nat).after calls
    (∃ answer, log[1]? = some (rendered 1 "first", answer) ∧
        (∀ text, ¬ Returned (log.take 1) 1 text) ∧ answer = (rendered 1 "first").render ()) ∧
      (∃ answer, log[3]? = some (rendered 1 "second", answer) ∧
        Returned (log.take 3) 1 "first" ∧ answer = pure "first") ∧
      Nat.count (fun place => repeats log place) calls.length = 1 ∧
      Nat.count (fun place => raises log place) calls.length = 2 ∧
      cache.hits = 1 ∧ cache.misses = 4 ∧ cache.size = 2 := by
  intro failed rendered calls log cache
  rcases first_success_wins calls with ⟨_, answers, hits, requests, _, misses, _⟩
  have never : ∀ text, ¬ Returned (log.take 1) 1 text := by
    rintro text ⟨step, member, _, returned⟩
    rw [List.mem_singleton.mp member] at returned
    contradiction
  have earlier : Returned (log.take 3) 1 "first" :=
    ⟨_, List.mem_cons_of_mem _ List.mem_cons_self, rfl, rfl⟩
  have repeated : Nat.count (fun place => repeats log place) calls.length = 1 := by decide +kernel
  have raised : Nat.count (fun place => raises log place) calls.length = 2 := by decide +kernel
  have once : cache.hits = 1 := hits.trans repeated
  have missed : cache.misses = 4 := by
    have total : cache.hits + cache.misses = 5 := requests
    omega
  have kept : cache.size = 2 := by
    have balanced : cache.misses = cache.size + 2 := raised ▸ misses
    omega
  exact ⟨⟨_, rfl, never, (answers 1 _ _ rfl).2 never⟩, ⟨_, rfl, earlier, (answers 3 _ _ rfl).1 _ earlier⟩,
    repeated, raised, once, missed, kept⟩

end Cache

end Variants
