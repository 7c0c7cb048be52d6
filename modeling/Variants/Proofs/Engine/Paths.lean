import Variants.Proofs.Engine.Normalization
import Variants.Proofs.Engine.Rendering
import Variants.Proofs.Registry.Plain
import Variants.Proofs.Template.Writing

/-!
Path fragments. A path is rendered from the first text of the run that means the same, and in a plain
registry that text can be told from the fragment up to its meaning. So the fragments of two texts are the
same iff the texts mean the same.
-/

namespace Variants

variable {Custom : Type} {registry : Registry}

theorem firstSpelling_take_unique {requests : List (Request Custom)} {selection : Selection}
    {one other : String} {step later : Nat}
    (oneFirst : firstSpelling registry (requests.take step) selection = some one)
    (otherFirst : firstSpelling registry (requests.take later) selection = some other) : one = other := by
  rcases Nat.le_total step later with le | le
  · have extended := firstSpelling_take_of_le le oneFirst
    rw [otherFirst, Option.some.injEq] at extended
    exact extended.symm
  · have extended := firstSpelling_take_of_le le otherFirst
    rw [oneFirst, Option.some.injEq] at extended
    exact extended

namespace Engine

variable [DecidableEq Custom] [AtomWriter Custom]

/-- A step of a run answers a path with a fragment, which is what the first text with the selection is
rendered as in every scope. -/
structure AnswersPath (registry : Registry) (requests : List (Request Custom)) (step : Nat)
    (selection : Selection) (spelling fragment : String) : Prop where
  first : firstSpelling registry (requests.take (step + 1)) selection = some spelling
  rendered : ∀ scope,
    (Variants.render registry (Template.path : Template Custom) scope (some spelling)).result =
      .ok fragment
  states : Condition.selection? registry fragment = some selection
  answered : (history ({ registry } : Engine Custom) requests)[step]?.map Prod.fst =
    some (.ok (.text fragment))

variable {requests : List (Request Custom)}

theorem exists_answersPath (plain : registry.Plain) {step : Nat} {scope text : String}
    {condition : Condition} {selection : Selection}
    (asked : requests[step]? = some (.path scope (some text))) (nonempty : text ≠ "")
    (read : Condition.parse registry (some text) = .ok condition)
    (result : (condition.evaluate registry).result = .ok selection) :
    ∃ spelling fragment, AnswersPath registry requests step selection spelling fragment := by
  have evaluates : (Request.path scope (some text) : Request Custom).evaluated? = some text := by
    simp [Request.path, Request.evaluated?, TemplateRef.resolve, nonempty]
  have states := Condition.selection?_of_parse_eq_ok read result
  have first := firstSpelling_take_succ asked evaluates states
  rcases Condition.exists_parse_of_selection?_eq_some (selection?_of_firstSpelling first) with
    ⟨spellingCondition, spellingRead, spellingResult⟩
  have writes : (Template.path : Template Custom).Writes .path := Template.path_writes
  rcases exists_render_of_writes plain writes spellingRead with
    ⟨fragment, rendered, fragmentRead, _⟩
  refine ⟨_, fragment, first, rendered, ?_, ?_⟩
  · exact Condition.selection?_of_parse_eq_ok fragmentRead spellingResult
  · have known : (TemplateRef.custom .path : TemplateRef Custom).resolve = .ok .path := rfl
    rw [history_getElem?_render asked known nonempty read result, rendered]
    rfl

/-- In a plain registry, texts have the same path fragment iff they mean the same. -/
theorem path_eq_iff_equivalent (registry : Registry) (plain : registry.Plain)
    (requests : List (Request Custom)) (first second : Nat) {oneScope otherScope one other : String}
    {oneCondition otherCondition : Condition}
    (firstAsked : requests[first]? = some (.path oneScope (some one)))
    (secondAsked : requests[second]? = some (.path otherScope (some other)))
    (oneNonempty : one ≠ "") (otherNonempty : other ≠ "")
    (oneRead : Condition.parse registry (some one) = .ok oneCondition)
    (otherRead : Condition.parse registry (some other) = .ok otherCondition) :
    ∃ oneFragment otherFragment,
      (history ({ registry } : Engine Custom) requests)[first]?.map Prod.fst =
          some (.ok (.text oneFragment)) ∧
        (history ({ registry } : Engine Custom) requests)[second]?.map Prod.fst =
          some (.ok (.text otherFragment)) ∧
        (oneFragment = otherFragment ↔ oneCondition.Equivalent registry otherCondition) := by
  rcases Condition.exists_evaluate_eq_ok oneRead with ⟨oneSelection, oneResult⟩
  rcases Condition.exists_evaluate_eq_ok otherRead with ⟨otherSelection, otherResult⟩
  rcases exists_answersPath plain firstAsked oneNonempty oneRead oneResult with
    ⟨oneSpelling, oneFragment, oneAnswers⟩
  rcases exists_answersPath plain secondAsked otherNonempty otherRead otherResult with
    ⟨otherSpelling, otherFragment, otherAnswers⟩
  refine ⟨oneFragment, otherFragment, oneAnswers.answered, otherAnswers.answered, ?_⟩
  rw [← Condition.selection_eq_iff_equivalent (Condition.declared_of_parse_eq_ok oneRead)
    (Condition.declared_of_parse_eq_ok otherRead) oneResult otherResult]
  constructor
  · intro same
    have states := oneAnswers.states
    rw [same, otherAnswers.states, Option.some.injEq] at states
    exact states.symm
  · intro same
    subst same
    have sameSpelling := firstSpelling_take_unique oneAnswers.first otherAnswers.first
    have rendered := oneAnswers.rendered oneScope
    rw [sameSpelling, otherAnswers.rendered, Except.ok.injEq] at rendered
    exact rendered.symm

theorem path_eq_iff_equivalent_of_example :
    let one := Condition.and (.choice "Platform" "Win32" false)
      (.choice "Configuration" "Debug" false)
    let other := Condition.and (.choice "Configuration" "Debug" false)
      (.choice "Platform" "Win32" false)
    let requests : List Request :=
      [.path "zlib" (some "x86 & Debug"), .analyze, .path "png" (some "Debug & x86")]
    Condition.parse Example.registry (some "x86 & Debug") = .ok one ∧
      Condition.parse Example.registry (some "Debug & x86") = .ok other ∧
      ∃ oneFragment otherFragment,
        (history ({ registry := Example.registry } : Engine) requests)[0]?.map Prod.fst =
            some (.ok (.text oneFragment)) ∧
          (history ({ registry := Example.registry } : Engine) requests)[2]?.map Prod.fst =
            some (.ok (.text otherFragment)) ∧
          (oneFragment = otherFragment ↔ one.Equivalent Example.registry other) := by
  exact ⟨Example.parse_platform_first, Example.parse_configuration_first,
    path_eq_iff_equivalent Example.registry Example.registry_plain _ 0 2 rfl rfl (by decide)
      (by decide) Example.parse_platform_first Example.parse_configuration_first⟩

end Engine

end Variants
