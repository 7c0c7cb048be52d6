import Variants.Traced

/-!
What a traced computation gives, and what it reports on the way. A computation in parts reports what
its parts report, up to the first part that fails.
-/

namespace Variants.Traced

variable {ε α β : Type}

@[simp]
theorem result_pure (a : α) : (pure a : Traced ε α).result = .ok a := rfl

@[simp]
theorem result_ofExcept (result : Except ε α) : (ofExcept result).result = result := rfl

@[simp]
theorem result_bind (first : Traced ε α) (next : α → Traced ε β) :
    (first >>= next).result = first.result.bind fun a => (next a).result := by
  rcases first with ⟨marks, result⟩
  cases result with
  | error cause => rfl
  | ok a => rfl

def mapError {ε' : Type} (f : ε → ε') (computation : Traced ε α) : Traced ε' α :=
  ⟨computation.marks, computation.result.mapError f⟩

theorem mapError_bind {ε' : Type} (f : ε → ε') (first : Traced ε α) (next : α → Traced ε β) :
    (first >>= next).mapError f = first.mapError f >>= fun a => (next a).mapError f := by
  rcases first with ⟨marks, result⟩
  cases result with
  | error cause => rfl
  | ok a => rfl

/-- What a computation reports begins what is expected of it, and is all of it once the computation
succeeds. -/
structure Reports (computation : Traced ε α) (expected : List Mark) : Prop where
  begins : computation.marks <+: expected
  complete : ∀ a, computation.result = .ok a → computation.marks = expected

theorem reports_pure (a : α) : (pure a : Traced ε α).Reports [] :=
  ⟨List.nil_prefix, fun _ _ => rfl⟩

theorem reports_ofExcept (result : Except ε α) : (ofExcept result).Reports [] :=
  ⟨List.nil_prefix, fun _ _ => rfl⟩

theorem reports_mark (pivot choice : String) :
    (mark pivot choice : Traced ε Unit).Reports [(pivot, choice)] :=
  ⟨List.prefix_rfl, fun _ _ => rfl⟩

theorem Reports.bind {first : Traced ε α} {next : α → Traced ε β} {early late : List Mark}
    (reports : first.Reports early) (further : ∀ a, first.result = .ok a → (next a).Reports late) :
    (first >>= next).Reports (early ++ late) := by
  rcases first with ⟨marks, result⟩
  cases result with
  | error cause =>
      constructor
      · exact reports.begins.trans (List.prefix_append early late)
      · intro b succeeds
        contradiction
  | ok a =>
      obtain rfl : marks = early := reports.complete a rfl
      have second := further a rfl
      constructor
      · exact (List.prefix_append_right_inj marks).mpr second.begins
      · intro b succeeds
        exact congrArg (marks ++ ·) (second.complete b succeeds)

theorem Reports.then_ofExcept {first : Traced ε α} {expected : List Mark} (reports : first.Reports expected)
    (finish : α → Except ε β) : (first >>= fun a => ofExcept (finish a)).Reports expected := by
  have both := reports.bind fun a _ => reports_ofExcept (finish a)
  rwa [List.append_nil] at both

end Variants.Traced
