import Variants.Proofs.Engine.Run

/-!
Normalized texts. Normalizing a text gives the first text of the run that means the same, whichever
requests come before or after, so two texts have the same normalized text iff they mean the same.
-/

namespace Variants

variable {Custom : Type} {registry : Registry}

theorem firstSpelling_take_of_le {requests : List (Request Custom)} {selection : Selection}
    {spelling : String} {step later : Nat} (le : step ≤ later)
    (first : firstSpelling registry (requests.take step) selection = some spelling) :
    firstSpelling registry (requests.take later) selection = some spelling := by
  have parts := List.take_append_drop step (requests.take later)
  rw [List.take_take, Nat.min_eq_left le] at parts
  rw [← parts, firstSpelling_append, first, Option.some_or]

namespace Engine

variable [DecidableEq Custom] [AtomWriter Custom]

/-- A step of a run normalizes a text to a key. -/
structure Normalizes (registry : Registry) (requests : List (Request Custom)) (step : Nat)
    (text key : String) : Prop where
  answered : (history ({ registry } : Engine Custom) requests)[step]?.map Prod.fst =
    some (.ok (.text key))
  given : ∃ earlier ≤ step, ∃ request, requests[earlier]? = some request ∧ request.text? = some key
  equivalent : ∃ condition other, Condition.parse registry (some text) = .ok condition ∧
    Condition.parse registry (some key) = .ok other ∧ condition.Equivalent registry other
  stable : ∀ later : List (Request Custom),
    ((after ({ registry } : Engine Custom) (requests.take (step + 1) ++ later)).perform
      (.normalize (some key))).1 = .ok (.text key)

theorem perform_normalize {engine : Engine Custom} {text : String} {condition : Condition}
    {selection : Selection} (nonempty : text ≠ "")
    (read : Condition.parse engine.registry (some text) = .ok condition)
    (result : (condition.evaluate engine.registry).result = .ok selection) :
    (engine.perform (.normalize (some text))).1 =
      .ok (.text ((engine.spelling? selection).getD text)) := by
  rw [perform, normalize_of_parse_eq_ok nonempty read result]
  rfl

theorem normalizes_of_firstSpelling {requests : List (Request Custom)} {step : Nat} {text key : String}
    {condition : Condition} {selection : Selection}
    (asked : requests[step]? = some (.normalize (some text))) (nonempty : text ≠ "")
    (read : Condition.parse registry (some text) = .ok condition)
    (result : (condition.evaluate registry).result = .ok selection)
    (first : firstSpelling registry (requests.take (step + 1)) selection = some key) :
    Normalizes registry requests step text key := by
  have evaluates : (Request.normalize (some text) : Request Custom).evaluated? = some text := by
    simp [Request.evaluated?, nonempty]
  have states := Condition.selection?_of_parse_eq_ok read result
  rcases Condition.exists_parse_of_selection?_eq_some (selection?_of_firstSpelling first) with
    ⟨keyCondition, keyRead, keyResult⟩
  -- The key comes from a request of the run so far, which makes it a text that can be asked for again.
  rcases exists_evaluated_of_firstSpelling first with ⟨request, member, keyEvaluates⟩
  rcases Request.text?_of_evaluated? keyEvaluates with ⟨handed, keyNonempty⟩
  constructor
  · have spelled : (firstSpelling registry (requests.take step) selection).getD text = key := by
      rw [firstSpelling_take_succ asked evaluates states] at first
      exact Option.some.inj first
    rw [history_getElem?, asked, Option.map_some, Option.map_some,
      perform_normalize nonempty (by rwa [registry_after]) (by rwa [registry_after]),
      spelling?_after_fresh, spelled]
  · rcases List.mem_iff_getElem?.mp member with ⟨earlier, found⟩
    rw [List.getElem?_take] at found
    split at found
    · rename_i before
      exact ⟨earlier, by omega, request, found, handed⟩
    · contradiction
  · refine ⟨condition, keyCondition, read, keyRead, ?_⟩
    exact (Condition.selection_eq_iff_equivalent (Condition.declared_of_parse_eq_ok read)
      (Condition.declared_of_parse_eq_ok keyRead) result keyResult).mp rfl
  · intro later
    rw [perform_normalize keyNonempty (by rwa [registry_after]) (by rwa [registry_after]),
      spelling?_after_fresh, firstSpelling_append, first, Option.some_or, Option.getD_some]

theorem exists_normalizes (registry : Registry) {requests : List (Request Custom)} {step : Nat}
    {text : String} {condition : Condition}
    (asked : requests[step]? = some (.normalize (some text))) (nonempty : text ≠ "")
    (read : Condition.parse registry (some text) = .ok condition) :
    ∃ selection key, (condition.evaluate registry).result = .ok selection ∧
      firstSpelling registry (requests.take (step + 1)) selection = some key ∧
      Normalizes registry requests step text key := by
  rcases Condition.exists_evaluate_eq_ok read with ⟨selection, result⟩
  have evaluates : (Request.normalize (some text) : Request Custom).evaluated? = some text := by
    simp [Request.evaluated?, nonempty]
  have states := Condition.selection?_of_parse_eq_ok read result
  have first := firstSpelling_take_succ asked evaluates states
  exact ⟨selection, _, result, first, normalizes_of_firstSpelling asked nonempty read result first⟩

/-- Texts have the same normalized text iff they mean the same. -/
theorem normalized_eq_iff_equivalent (registry : Registry) (requests : List (Request Custom))
    (first second : Nat) {one other : String} {oneCondition otherCondition : Condition}
    (firstAsked : requests[first]? = some (.normalize (some one)))
    (secondAsked : requests[second]? = some (.normalize (some other)))
    (oneNonempty : one ≠ "") (otherNonempty : other ≠ "")
    (oneRead : Condition.parse registry (some one) = .ok oneCondition)
    (otherRead : Condition.parse registry (some other) = .ok otherCondition) :
    ∃ oneKey otherKey, Normalizes registry requests first one oneKey ∧
      Normalizes registry requests second other otherKey ∧
      (oneKey = otherKey ↔ oneCondition.Equivalent registry otherCondition) := by
  rcases exists_normalizes registry firstAsked oneNonempty oneRead with
    ⟨oneSelection, oneKey, oneResult, oneFirst, oneNormalizes⟩
  rcases exists_normalizes registry secondAsked otherNonempty otherRead with
    ⟨otherSelection, otherKey, otherResult, otherFirst, otherNormalizes⟩
  refine ⟨oneKey, otherKey, oneNormalizes, otherNormalizes, ?_⟩
  rw [← Condition.selection_eq_iff_equivalent (Condition.declared_of_parse_eq_ok oneRead)
    (Condition.declared_of_parse_eq_ok otherRead) oneResult otherResult]
  constructor
  · intro same
    have oneStates := selection?_of_firstSpelling oneFirst
    have otherStates := selection?_of_firstSpelling otherFirst
    rw [same, otherStates, Option.some.injEq] at oneStates
    exact oneStates.symm
  · intro same
    subst same
    -- The run up to the later step extends the run up to the earlier one.
    rcases Nat.le_total (first + 1) (second + 1) with le | le
    · have extended := firstSpelling_take_of_le le oneFirst
      rw [otherFirst, Option.some.injEq] at extended
      exact extended.symm
    · have extended := firstSpelling_take_of_le le otherFirst
      rw [oneFirst, Option.some.injEq] at extended
      exact extended

theorem normalized_eq_iff_equivalent_of_example :
    let one := Condition.and (.choice "Platform" "Win32" false)
      (.choice "Configuration" "Debug" false)
    let other := Condition.and (.choice "Configuration" "Debug" false)
      (.choice "Platform" "Win32" false)
    let requests : List Request :=
      [.normalize (some "x86 & Debug"), .analyze, .normalize (some "Debug & x86")]
    Condition.parse Example.registry (some "x86 & Debug") = .ok one ∧
      Condition.parse Example.registry (some "Debug & x86") = .ok other ∧
      ∃ oneKey otherKey, Normalizes Example.registry requests 0 "x86 & Debug" oneKey ∧
        Normalizes Example.registry requests 2 "Debug & x86" otherKey ∧
        (oneKey = otherKey ↔ one.Equivalent Example.registry other) := by
  exact ⟨Example.parse_platform_first, Example.parse_configuration_first,
    normalized_eq_iff_equivalent Example.registry _ 0 2 rfl rfl (by decide) (by decide)
      Example.parse_platform_first Example.parse_configuration_first⟩

end Engine

end Variants
