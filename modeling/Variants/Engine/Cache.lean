import Variants.Traced

/-!
A store of rendered texts. The first rendering of a key that succeeds is kept and answers every later
request for it; a failed one is counted and not kept.
-/

namespace Variants

structure Cache (κ : Type) where
  entries : List (κ × String) := []
  hits : Nat := 0
  misses : Nat := 0
  deriving Repr

namespace Cache

variable {κ ε : Type} [BEq κ]

def size (cache : Cache κ) : Nat :=
  cache.entries.length

def find? (cache : Cache κ) (key : κ) : Option String :=
  cache.entries.lookup key

def fetch (cache : Cache κ) (key : κ) (render : Unit → Traced ε String) :
    Traced ε String × Cache κ :=
  match cache.find? key with
  | some text => (pure text, { cache with hits := cache.hits + 1 })
  | none =>
    let rendered := render ()
    let counted := { cache with misses := cache.misses + 1 }
    match rendered.result with
    | .ok text => (rendered, { counted with entries := counted.entries ++ [(key, text)] })
    | .error _ => (rendered, counted)

end Cache

end Variants
