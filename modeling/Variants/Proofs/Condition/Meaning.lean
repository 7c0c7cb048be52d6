import Variants.Condition.Basic
import Variants.Proofs.Registry.Variant

/-!
The truth of a condition about a variant of a build. The conditions that a text can state name declared
choices only.
-/

namespace Variants

instance (registry : Registry) (name choice : String) : Decidable (registry.Declares name choice) :=
  inferInstanceAs (Decidable (∃ pivot ∈ registry.pivots, _ ∧ _))

namespace Condition

/-- Whether a condition is true of what a build has for each pivot. -/
def holds (variant : String → Option String) : Condition → Bool
  | always => true
  | never => false
  | choice pivot name inverted => (variant pivot == some name) != inverted
  | and left right => left.holds variant && right.holds variant
  | or left right => left.holds variant || right.holds variant

/-- Every leaf names a pivot of the registry and one of its choices. -/
def Declared (registry : Registry) : Condition → Prop
  | always | never => True
  | choice pivot name _ => registry.Declares pivot name
  | and left right | or left right => left.Declared registry ∧ right.Declared registry

instance decidableDeclared (registry : Registry) :
    (condition : Condition) → Decidable (condition.Declared registry)
  | always | never => inferInstanceAs (Decidable True)
  | choice pivot name _ => inferInstanceAs (Decidable (registry.Declares pivot name))
  | and left right | or left right =>
    have := decidableDeclared registry left
    have := decidableDeclared registry right
    inferInstanceAs (Decidable (_ ∧ _))

/-- Conditions that are true of the same variants. -/
def Equivalent (registry : Registry) (first second : Condition) : Prop :=
  ∀ variant : registry.Variant, first.holds variant.choice? = second.holds variant.choice?

end Condition

end Variants
