import Mathlib.Data.Set.Card
import Variants.Proofs.Engine.Accounting
import Variants.Proofs.Engine.Failure

/-!
Sharing of cache entries. The key of an entry stands for a scope, the variants that a condition is true of,
and a template. So there are as many entries as there are such triples of which a text was returned, and
renderings share an entry iff they agree in all three.
-/

namespace Variants

theorem Cache.size_eq_ncard {κ : Type} [DecidableEq κ] {cache : Cache κ}
    (distinct : (cache.entries.map Prod.fst).Nodup) :
    cache.size = Set.ncard {key | ∃ text, cache.find? key = some text} := by
  have keys : {key | ∃ text, cache.find? key = some text} =
      ((cache.entries.map Prod.fst).toFinset : Set κ) := by
    ext key
    rw [List.coe_toFinset, Set.mem_ofPred_eq, Set.mem_ofPred_eq, Cache.mem_keys_iff]
  rw [keys, Set.ncard_coe_finset, List.toFinset_card_of_nodup distinct, List.length_map]
  rfl

variable {Custom : Type}

namespace RenderStep

/-- The scope of a step, what its condition says of each variant, and its template. -/
def share (registry : Registry) (step : RenderStep Custom) :
    String × (registry.Variant → Bool) × Template Custom :=
  (step.scope, fun variant => step.condition.holds variant.choice?, step.template)

variable {registry : Registry} {one other : RenderStep Custom}

theorem share_eq_iff : one.share registry = other.share registry ↔
    one.scope = other.scope ∧ one.condition.Equivalent registry other.condition ∧
      one.template = other.template := by
  rw [share, share, Prod.mk.injEq, Prod.mk.injEq, funext_iff]
  rfl

end RenderStep

def CacheKey.share (registry : Registry) (key : CacheKey Custom) :
    String × (registry.Variant → Bool) × Template Custom :=
  (key.scope, fun variant => decide (key.selection.Accepts variant.chosen), key.template)

namespace CacheKey

variable {registry : Registry} {key other : CacheKey Custom}

theorem eq_of_share_eq (reduced : key.selection.Reduced registry)
    (otherReduced : other.selection.Reduced registry) (same : key.share registry = other.share registry) :
    key = other := by
  rcases key with ⟨scope, selection, template⟩
  rcases other with ⟨otherScope, otherSelection, otherTemplate⟩
  rcases Prod.mk.inj same with ⟨sameScope, others⟩
  rcases Prod.mk.inj others with ⟨sameVariants, sameTemplate⟩
  have sameSelection : selection = otherSelection := by
    apply (reduced.eq_iff otherReduced).mpr
    intro variant
    exact decide_eq_decide.mp (congrFun sameVariants variant)
  rw [CacheKey.mk.injEq]
  exact ⟨sameScope, sameSelection, sameTemplate⟩

end CacheKey

namespace RenderStep

variable {registry : Registry} {step : RenderStep Custom} {key : CacheKey Custom}

theorem Under.reduced (under : step.Under registry key) (declared : step.condition.Declared registry) :
    key.selection.Reduced registry := by
  rcases Condition.evaluate_computes declared with ⟨selection, result, reduced, _⟩
  have same : selection = key.selection := Except.ok.inj (result.symm.trans under.selection)
  exact same ▸ reduced

theorem Under.share_eq (under : step.Under registry key) (declared : step.condition.Declared registry) :
    key.share registry = step.share registry := by
  rcases Condition.evaluate_computes declared with ⟨selection, result, _, means⟩
  have same : selection = key.selection := Except.ok.inj (result.symm.trans under.selection)
  have meaning : (fun variant : registry.Variant => decide (key.selection.Accepts variant.chosen)) =
      fun variant => step.condition.holds variant.choice? := by
    funext variant
    rw [Bool.eq_iff_iff, decide_eq_true_iff, ← same]
    exact means variant
  rw [CacheKey.share, share, meaning, under.scope, under.template]

end RenderStep

/-- A step of a run renders a condition about declared choices, and is answered with a text of the cache or
with a failure that its template raises. -/
structure RenderStep.Sound [AtomWriter Custom] (registry : Registry) (step : RenderStep Custom) : Prop where
  declared : step.condition.Declared registry
  held : step.returned → ∃ entry, step.HeldBy registry entry
  raises : ∀ cause, step.answer = .error cause → step.template.Raises step.scope cause

namespace Engine

variable [DecidableEq Custom] [AtomWriter Custom]

theorem sound_of_mem_renderSteps {registry : Registry} {requests : List (Request Custom)}
    {step : RenderStep Custom}
    (member : step ∈ renderSteps ({ registry } : Engine Custom) requests) : step.Sound registry := by
  rcases exists_of_mem_renderSteps member with ⟨earlier, request, rendered⟩
  have same : (Engine.after ({ registry } : Engine Custom) earlier).registry = registry :=
    registry_after _ earlier
  rcases Request.renderStep?_eq_some_iff.mp rendered with
    ⟨reference, words, rfl, known, nonempty, read, answered⟩
  refine ⟨Condition.declared_of_parse_eq_ok read, ?_, ?_⟩
  · intro returned
    have cases := renderStep_cases (Engine.after ({ registry } : Engine Custom) earlier)
      (.render reference step.scope (some words))
    rw [same, rendered] at cases
    rcases cases with ⟨none, _⟩ | ⟨found, key, outcome, asked, under, textual, _⟩
    · contradiction
    · obtain rfl := Option.some.inj asked
      cases outcome with
      | error cause =>
          rw [RenderStep.returned, textual] at returned
          contradiction
      | ok text => exact ⟨(key, text), under, textual⟩
  · -- Nothing is wrong with the text of the step, so the failure is one of the template.
    intro cause failed
    have accepted : (Request.render reference step.scope (some words)).refusal?
        (Engine.after ({ registry } : Engine Custom) earlier).registry = none := by
      rw [same, Request.refusal?, known]
      exact defect?_of_parse_eq_ok read
    rcases exists_raisedBy (marked_after_fresh registry earlier) (spells_after_fresh registry earlier)
      accepted (answered.trans failed) with ⟨_, template, _, _, raised⟩
    have asked := raised.asked
    cases asked
    have sameTemplate : template = step.template :=
      Except.ok.inj (raised.known.symm.trans known)
    exact sameTemplate ▸ raised.raises

namespace Accounts

variable {registry : Registry} {cache : Cache (CacheKey Custom)} {steps : List (RenderStep Custom)}

theorem injOn_share (accounts : Accounts registry cache steps)
    (sound : ∀ step ∈ steps, step.Sound registry) :
    Set.InjOn (CacheKey.share registry) {key | ∃ text, cache.find? key = some text} := by
  rintro key ⟨text, kept⟩ other ⟨otherText, otherKept⟩ same
  rcases (accounts.kept key text).mp kept with ⟨step, present, holds⟩
  rcases (accounts.kept other otherText).mp otherKept with ⟨otherStep, otherPresent, otherHolds⟩
  exact CacheKey.eq_of_share_eq (holds.under.reduced (sound step present).declared)
    (otherHolds.under.reduced (sound otherStep otherPresent).declared) same

theorem image_share (accounts : Accounts registry cache steps)
    (sound : ∀ step ∈ steps, step.Sound registry) :
    CacheKey.share registry '' {key | ∃ text, cache.find? key = some text} =
      {share | ∃ step ∈ steps, step.returned ∧ step.share registry = share} := by
  ext share
  constructor
  · rintro ⟨key, ⟨text, kept⟩, rfl⟩
    rcases (accounts.kept key text).mp kept with ⟨step, present, holds⟩
    have returned : step.returned = true := by
      rw [RenderStep.returned, holds.answer]
      rfl
    exact ⟨step, present, returned, (holds.under.share_eq (sound step present).declared).symm⟩
  · rintro ⟨step, present, returned, rfl⟩
    rcases (sound step present).held returned with ⟨⟨key, text⟩, holds⟩
    have kept := (accounts.kept key text).mpr ⟨step, present, holds⟩
    exact ⟨key, ⟨text, kept⟩, holds.under.share_eq (sound step present).declared⟩

theorem size_eq_ncard (accounts : Accounts registry cache steps)
    (sound : ∀ step ∈ steps, step.Sound registry) :
    cache.size = Set.ncard {share | ∃ step ∈ steps, step.returned ∧ step.share registry = share} := by
  calc
    cache.size = Set.ncard {key | ∃ text, cache.find? key = some text} :=
      Cache.size_eq_ncard accounts.distinct
    _ = Set.ncard (CacheKey.share registry '' {key | ∃ text, cache.find? key = some text}) :=
      (accounts.injOn_share sound).ncard_image.symm
    _ = Set.ncard {share | ∃ step ∈ steps, step.returned ∧ step.share registry = share} := by
      rw [accounts.image_share sound]

theorem exists_entry_iff (accounts : Accounts registry cache steps) {one other : RenderStep Custom}
    (present : one ∈ steps) (otherPresent : other ∈ steps) (oneSound : one.Sound registry)
    (otherSound : other.Sound registry) (returned : one.returned) (otherReturned : other.returned) :
    (∃ entry ∈ cache.entries, one.HeldBy registry entry ∧ other.HeldBy registry entry) ↔
      one.share registry = other.share registry := by
  constructor
  · rintro ⟨entry, _, holds, otherHolds⟩
    calc
      one.share registry = entry.1.share registry := (holds.under.share_eq oneSound.declared).symm
      _ = other.share registry := otherHolds.under.share_eq otherSound.declared
  · intro same
    rcases oneSound.held returned with ⟨⟨key, text⟩, holds⟩
    rcases otherSound.held otherReturned with ⟨⟨otherKey, otherText⟩, otherHolds⟩
    have sameKey : key = otherKey := by
      apply CacheKey.eq_of_share_eq (holds.under.reduced oneSound.declared)
        (otherHolds.under.reduced otherSound.declared)
      calc
        key.share registry = one.share registry := holds.under.share_eq oneSound.declared
        _ = other.share registry := same
        _ = otherKey.share registry := (otherHolds.under.share_eq otherSound.declared).symm
    subst sameKey
    have kept := (accounts.kept key text).mpr ⟨one, present, holds⟩
    have otherKept := (accounts.kept key otherText).mpr ⟨other, otherPresent, otherHolds⟩
    rw [kept, Option.some.injEq] at otherKept
    subst otherKept
    exact ⟨(key, text), Cache.mem_entries_of_find?_eq_some kept, holds, otherHolds⟩

end Accounts

/-- After a run, every rendering is counted as a hit or as a miss, the misses that made no entry are those in
which the template raised a failure, and there is one entry for all renderings that returned a text and agree
in scope, meaning and template. -/
theorem cache_shares_by_meaning (registry : Registry) (requests : List (Request Custom)) :
    let cache := (Engine.after ({ registry } : Engine Custom) requests).cache
    let steps := renderSteps ({ registry } : Engine Custom) requests
    cache.hits + cache.misses = steps.length ∧
      cache.misses = cache.size + steps.countP (!·.returned) ∧
      (∀ step ∈ steps, ∀ cause, step.answer = .error cause → step.template.Raises step.scope cause) ∧
      cache.size =
        Set.ncard {share | ∃ step ∈ steps, step.returned ∧ step.share registry = share} ∧
      ∀ one ∈ steps, ∀ other ∈ steps, one.returned → other.returned →
        ((∃ entry ∈ cache.entries, one.HeldBy registry entry ∧ other.HeldBy registry entry) ↔
          one.scope = other.scope ∧ one.condition.Equivalent registry other.condition ∧
            one.template = other.template) := by
  intro cache steps
  have accounts : Accounts registry cache steps :=
    accounts_after ({ registry } : Engine Custom) (accounts_fresh registry) requests
  have sound : ∀ step ∈ steps, step.Sound registry := fun step => sound_of_mem_renderSteps
  refine ⟨accounts.requests, accounts.misses, ?_, accounts.size_eq_ncard sound, ?_⟩
  · intro step present
    exact (sound step present).raises
  · intro one present other otherPresent returned otherReturned
    rw [accounts.exists_entry_iff present otherPresent (sound one present) (sound other otherPresent)
      returned otherReturned]
    exact RenderStep.share_eq_iff

theorem cache_shares_by_meaning_of_example :
    let brokenGroups : Template := { Template.label with name := "broken", group := "(\x7b1\x7d)" }
    let requests : List Request := [.label (some "Debug & x86"), .label (some "x86 & Debug"),
      .render (.custom brokenGroups) "zlib" (some "woa | (x86)")]
    let cache := (Engine.after ({ registry := Example.registry } : Engine) requests).cache
    let steps := renderSteps ({ registry := Example.registry } : Engine) requests
    (steps.map RenderStep.returned = [true, true, false] ∧
        cache.hits + cache.misses = steps.length ∧
        cache.misses = cache.size + steps.countP (!·.returned)) ∧
      ∃ one ∈ steps, ∃ other ∈ steps, one.returned ∧ other.returned ∧
        ((∃ entry ∈ cache.entries,
            one.HeldBy Example.registry entry ∧ other.HeldBy Example.registry entry) ↔
          one.scope = other.scope ∧ one.condition.Equivalent Example.registry other.condition ∧
            one.template = other.template) := by
  intro brokenGroups requests cache steps
  have outcomes : steps.map RenderStep.returned = [true, true, false] := by decide +kernel
  have first : steps[0]?.map RenderStep.returned = some true := by
    rw [← List.getElem?_map, outcomes]
    rfl
  have second : steps[1]?.map RenderStep.returned = some true := by
    rw [← List.getElem?_map, outcomes]
    rfl
  rcases cache_shares_by_meaning Example.registry requests with ⟨counted, missed, _, _, shared⟩
  rcases Option.map_eq_some_iff.mp first with ⟨one, oneFound, oneReturned⟩
  rcases Option.map_eq_some_iff.mp second with ⟨other, otherFound, otherReturned⟩
  have onePresent := List.mem_of_getElem? oneFound
  have otherPresent := List.mem_of_getElem? otherFound
  exact ⟨⟨outcomes, counted, missed⟩, one, onePresent, other, otherPresent, oneReturned, otherReturned,
    shared one onePresent other otherPresent oneReturned otherReturned⟩

end Engine

end Variants
