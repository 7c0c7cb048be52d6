/-!
Computations that report the choices they touch, in order, and that may fail. What was reported before
a failure stays reported.
-/

namespace Variants

abbrev Mark := String × String

structure Traced (ε α : Type) where
  marks : List Mark
  result : Except ε α

namespace Traced

variable {ε α β : Type}

def ofExcept (result : Except ε α) : Traced ε α := ⟨[], result⟩

def mark (pivot choice : String) : Traced ε Unit := ⟨[(pivot, choice)], .ok ()⟩

def andThen (first : Traced ε α) (next : α → Traced ε β) : Traced ε β :=
  match first.result with
  | .error e => ⟨first.marks, .error e⟩
  | .ok a => ⟨first.marks ++ (next a).marks, (next a).result⟩

instance : Monad (Traced ε) where
  pure a := ⟨[], .ok a⟩
  bind := andThen

instance : MonadLift (Except ε) (Traced ε) where
  monadLift := ofExcept

@[simp]
theorem pure_def (a : α) : (pure a : Traced ε α) = ⟨[], .ok a⟩ := rfl

@[simp]
theorem bind_error {marks : List Mark} {e : ε} {next : α → Traced ε β} :
    (⟨marks, .error e⟩ : Traced ε α) >>= next = ⟨marks, .error e⟩ := rfl

@[simp]
theorem bind_ok {marks : List Mark} {a : α} {next : α → Traced ε β} :
    (⟨marks, .ok a⟩ : Traced ε α) >>= next = ⟨marks ++ (next a).marks, (next a).result⟩ := rfl

end Traced

end Variants
