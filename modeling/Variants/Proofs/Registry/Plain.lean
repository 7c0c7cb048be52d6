import Variants.Proofs.Condition.Parsing

/-!
Registries whose choices can be written down as they are: the name of a choice is a word, this word names
the choice and no other, and the words of the constants name no choice.
-/

namespace Variants

namespace Registry

/-- Every choice is named by a word of its own, and the words of the constants name no choice. -/
structure Plain (registry : Registry) : Prop where
  nonempty : ∀ pivot ∈ registry.pivots, ∀ choice ∈ pivot.choiceNames, choice ≠ ""
  inWord : ∀ pivot ∈ registry.pivots, ∀ choice ∈ pivot.choiceNames,
    ∀ c ∈ choice.toList, TokenKind.isWordChar c = true
  distinct : ∀ pivot ∈ registry.pivots, ∀ other ∈ registry.pivots, ∀ choice ∈ pivot.choiceNames,
    choice ∈ other.choiceNames → pivot.name = other.name
  always_free : registry.resolve? "true" = none
  never_free : registry.resolve? "false" = none

variable {registry : Registry}

theorem Plain.resolve?_of_declares (plain : registry.Plain) {name choice : String}
    (declared : registry.Declares name choice) : registry.resolve? choice = some (name, choice) := by
  rcases declared with ⟨pivot, present, rfl, member⟩
  have owned : (registry.pivots.find? fun other => other.choiceNames.contains choice).isSome := by
    rw [List.find?_isSome]
    exact ⟨pivot, present, by simpa using member⟩
  rcases Option.isSome_iff_exists.mp owned with ⟨first, found⟩
  have firstPresent := List.mem_of_find?_eq_some found
  have firstMember : choice ∈ first.choiceNames := by simpa using List.find?_some found
  have same := plain.distinct first firstPresent pivot present choice firstMember member
  rw [resolve?, byName?, found, Option.map_some, Option.some_or, same]

end Registry

theorem Example.registry_plain : Example.registry.Plain where
  nonempty := by decide +kernel
  inWord := by
    have all : (Example.registry.pivots.all fun pivot => pivot.choiceNames.all fun choice =>
        choice.toList.all TokenKind.isWordChar) = true := by decide +kernel
    simpa only [List.all_eq_true] using all
  distinct := by decide +kernel
  always_free := by decide +kernel
  never_free := by decide +kernel

end Variants
