import Variants.Proofs.Engine.Rendering
import Variants.Proofs.Template.Reporting

/-!
The used choices of a run. Evaluating a text marks the choices that the text names. A rendering marks
choices that the remembered text names, and these are marked already, since that text was evaluated when
it was remembered. So the used choices are those that the evaluated texts name.
-/

namespace Variants

variable {Custom : Type}

namespace Usage

theorem mem_mark_iff {usage : Usage} {marked mark : Mark} :
    mark ∈ (usage.mark marked).marks ↔ mark ∈ usage.marks ∨ mark = marked := by
  rw [Usage.mark]
  split
  · rename_i known
    have present : marked ∈ usage.marks := by simpa using known
    constructor
    · exact .inl
    · rintro (old | rfl)
      · exact old
      · exact present
  · simp

theorem mem_markAll_iff {usage : Usage} {marks : List Mark} {mark : Mark} :
    mark ∈ (usage.markAll marks).marks ↔ mark ∈ usage.marks ∨ mark ∈ marks := by
  induction marks generalizing usage with
  | nil => simp [markAll]
  | cons first rest ih =>
      rw [markAll, List.foldl_cons, ← markAll, ih, mem_mark_iff, List.mem_cons, or_assoc]

theorem mem_snapshot_iff {usage : Usage} {pivot choice : String} :
    (∃ choices, (pivot, choices) ∈ usage.snapshot ∧ choice ∈ choices) ↔
      (pivot, choice) ∈ usage.marks := by
  have isChoice : choice ∈ usage.choices pivot ↔ (pivot, choice) ∈ usage.marks := by
    simp [choices]
  constructor
  · rintro ⟨choices, entry, member⟩
    rcases List.mem_map.mp entry with ⟨other, _, same⟩
    rcases Prod.mk.inj same with ⟨rfl, rfl⟩
    exact isChoice.mp member
  · intro marked
    have isPivot : pivot ∈ usage.pivots := by
      rw [pivots, mem_ascending]
      exact List.mem_map_of_mem marked
    exact ⟨usage.choices pivot, List.mem_map_of_mem isPivot, isChoice.mpr marked⟩

end Usage

theorem Cache.mem_marks_of_mem_marks_fetch {κ ε : Type} [BEq κ] {cache : Cache κ} {key : κ}
    {render : Unit → Traced ε String} {mark : Mark}
    (member : mark ∈ (cache.fetch key render).1.marks) : mark ∈ (render ()).marks := by
  cases kept : cache.find? key with
  | some text =>
      rw [fetch_of_kept kept] at member
      contradiction
  | none =>
      cases rendered : (render ()).result with
      | error cause => rwa [fetch_of_error kept rendered] at member
      | ok text => rwa [fetch_of_ok kept rendered] at member

namespace Request

/-- A request mentions the choices that a word of its text names, if it evaluates a text that can be
read. -/
def Mentions (registry : Registry) (request : Request Custom) (mark : Mark) : Prop :=
  ∃ text, request.evaluated? = some text ∧
    (∃ condition, Condition.parse registry (some text) = .ok condition) ∧
    ∃ word ∈ words text, registry.resolve? word = some mark

variable {registry : Registry} {request : Request Custom} {mark : Mark}

theorem mentions_iff {text : String} {condition : Condition}
    (evaluates : request.evaluated? = some text)
    (read : Condition.parse registry (some text) = .ok condition) :
    request.Mentions registry mark ↔ mark ∈ registry.mentions text := by
  rw [Registry.mentions, List.mem_filterMap]
  constructor
  · rintro ⟨other, same, _, named⟩
    rw [evaluates, Option.some.injEq] at same
    exact same ▸ named
  · intro named
    exact ⟨text, evaluates, ⟨condition, read⟩, named⟩

theorem not_mentions_of_unread
    (unread : ∀ text, request.evaluated? = some text →
      ∃ cause, Condition.parse registry (some text) = .error cause) :
    ¬ request.Mentions registry mark := by
  rintro ⟨text, evaluates, ⟨condition, read⟩, _⟩
  rcases unread text evaluates with ⟨cause, failed⟩
  rw [read] at failed
  contradiction

end Request

namespace Engine

def Marked (engine : Engine Custom) : Prop :=
  ∀ selection spelling, engine.spelling? selection = some spelling →
    ∀ mark ∈ engine.registry.mentions spelling, mark ∈ engine.usage.marks

theorem marked_fresh (registry : Registry) : Marked ({ registry } : Engine Custom) := by
  intro selection spelling found
  contradiction

theorem usage_noting (engine : Engine Custom) (text : String) (condition : Condition)
    (selection : Selection) :
    (engine.noting text condition selection).usage =
      engine.usage.markAll (condition.evaluate engine.registry).marks := by
  unfold noting remember
  split
  · rfl
  · rfl

theorem mem_usage_noting_iff {engine : Engine Custom} {text : String} {condition : Condition}
    (read : Condition.parse engine.registry (some text) = .ok condition) (selection : Selection)
    {mark : Mark} :
    mark ∈ (engine.noting text condition selection).usage.marks ↔
      mark ∈ engine.usage.marks ∨ mark ∈ engine.registry.mentions text := by
  rw [usage_noting, Usage.mem_markAll_iff,
    Condition.marks_evaluate (Condition.declared_of_parse_eq_ok read),
    Condition.leaves_of_parse_eq_ok read]

theorem Marked.noting {engine : Engine Custom} (marked : engine.Marked) {text : String}
    {condition : Condition} (read : Condition.parse engine.registry (some text) = .ok condition)
    (selection : Selection) : (engine.noting text condition selection).Marked := by
  intro other spelling found mark mentioned
  rw [registry_noting] at mentioned
  rw [mem_usage_noting_iff read]
  rw [spelling?_noting, Option.or_eq_some_iff] at found
  rcases found with known | ⟨_, new⟩
  · exact .inl (marked other spelling known mark mentioned)
  · split at new
    · rw [Option.some.injEq] at new
      exact .inr (new ▸ mentioned)
    · contradiction

variable [AtomWriter Custom] [DecidableEq Custom]

theorem Marked.mem_usage_fetch_iff {engine : Engine Custom} (marked : engine.Marked)
    (key : CacheKey Custom) {mark : Mark} :
    mark ∈ (engine.fetch key).2.usage.marks ↔ mark ∈ engine.usage.marks := by
  have usage : (engine.fetch key).2.usage =
      engine.usage.markAll (engine.fetch key).1.marks := rfl
  rw [usage, Usage.mem_markAll_iff]
  apply or_iff_left_of_imp
  intro rendered
  have member : mark ∈ (engine.rendering key).marks := Cache.mem_marks_of_mem_marks_fetch rendered
  rw [rendering] at member
  cases found : engine.spelling? key.selection with
  | none =>
      rw [found] at member
      contradiction
  | some spelling =>
      rw [found] at member
      exact marked key.selection spelling found mark (mem_mentions_of_mem_marks_render member)

theorem Marked.fetch {engine : Engine Custom} (marked : engine.Marked) (key : CacheKey Custom) :
    (engine.fetch key).2.Marked := by
  intro selection spelling found mark mentioned
  rw [marked.mem_usage_fetch_iff key]
  exact marked selection spelling found mark mentioned

theorem Marked.becomes {engine next : Engine Custom} {request : Request Custom}
    (marked : engine.Marked) (becomes : engine.Becomes request next) : next.Marked := by
  cases becomes with
  | same => exact marked
  | noted _ read => exact marked.noting read _
  | fetched _ read => exact (marked.noting read _).fetch _

theorem Marked.mem_usage_iff {engine next : Engine Custom} {request : Request Custom}
    (marked : engine.Marked) (becomes : engine.Becomes request next) {mark : Mark} :
    mark ∈ next.usage.marks ↔
      mark ∈ engine.usage.marks ∨ request.Mentions engine.registry mark := by
  cases becomes with
  | same unread => exact (or_iff_left (Request.not_mentions_of_unread unread)).symm
  | noted evaluates read => rw [mem_usage_noting_iff read, Request.mentions_iff evaluates read]
  | fetched evaluates read =>
      rw [(marked.noting read _).mem_usage_fetch_iff, mem_usage_noting_iff read,
        Request.mentions_iff evaluates read]

theorem Marked.mem_usage_after_iff {engine : Engine Custom} (marked : engine.Marked)
    (requests : List (Request Custom)) {mark : Mark} :
    mark ∈ (engine.after requests).usage.marks ↔
      mark ∈ engine.usage.marks ∨ ∃ request ∈ requests, request.Mentions engine.registry mark := by
  induction requests generalizing engine with
  | nil => simp [after]
  | cons request rest ih =>
      have becomes := engine.becomes_perform request
      rw [after, ih (marked.becomes becomes), marked.mem_usage_iff becomes, registry_perform, or_assoc,
        List.exists_mem_cons_iff]

/-- After a run, the used choices are those that a word of an evaluated text names. -/
theorem mem_used_choices_iff (registry : Registry) (requests : List (Request Custom))
    (pivot choice : String) :
    (∃ choices, (pivot, choices) ∈ (after ({ registry } : Engine Custom) requests).usage.snapshot ∧
        choice ∈ choices) ↔
      ∃ request ∈ requests, ∃ text, request.evaluated? = some text ∧
        (∃ condition, Condition.parse registry (some text) = .ok condition) ∧
        ∃ word ∈ words text, registry.resolve? word = some (pivot, choice) := by
  rw [Usage.mem_snapshot_iff, (marked_fresh registry).mem_usage_after_iff]
  apply or_iff_right
  exact List.not_mem_nil

end Engine

end Variants
