import Variants.Ascending
import Variants.Traced

/-!
The choices that conditions have referred to, by pivot.
-/

namespace Variants

structure Usage where
  marks : List Mark := []
  deriving Repr

namespace Usage

def mark (usage : Usage) (mark : Mark) : Usage :=
  if usage.marks.contains mark then usage else ⟨usage.marks ++ [mark]⟩

def markAll (usage : Usage) (marks : List Mark) : Usage :=
  marks.foldl Usage.mark usage

def isUsed (usage : Usage) (pivot choice : String) : Bool :=
  usage.marks.contains (pivot, choice)

def choices (usage : Usage) (pivot : String) : List String :=
  ascending ((usage.marks.filter (·.1 == pivot)).map (·.2))

def pivots (usage : Usage) : List String :=
  ascending (usage.marks.map (·.1))

def snapshot (usage : Usage) : List (String × List String) :=
  usage.pivots.map fun pivot => (pivot, usage.choices pivot)

end Usage

end Variants
