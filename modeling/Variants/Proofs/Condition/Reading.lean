import Variants.Proofs.Condition.Parsing

/-!
What a text says, read from left to right. The terms of a text are read against a variant one after the
other: a word says that the variant has a choice, or it is a constant; a negation is the opposite truth
of a word or of a whole group; a connective joins what follows it to all that stands before it on its
level. The condition of a text is true of a variant iff the text says so.
-/

namespace Variants

section

variable (registry : Registry) (variant : String → Option String)

/-- What a word says. A word that names no choice has to be a constant, in any casing. -/
def wordTruth? (word : String) : Option Bool :=
  match registry.resolve? word with
  | some (pivot, choice) => some (variant pivot == some choice)
  | none =>
    if lowercase word = "true" then some true
    else if lowercase word = "false" then some false
    else none

def joinTruth (connective : Option Connective) (left right : Bool) : Bool :=
  match connective with
  | some .and => left && right
  | some .or | none => left || right

mutual

def Term.truth? : Term → Option Bool
  | .word lead word => do
    let truth ← wordTruth? registry variant word
    return if lead.negated then !truth else truth
  | .group lead terms => do
    let truth ← levelTruth? none terms
    return if lead.negated then !truth else truth

/-- What the terms of a level say, after terms that say `before`; a level without terms says true. -/
def levelTruth? (before : Option Bool) : List Term → Option Bool
  | [] => some (before.getD true)
  | term :: rest => do
    let right ← term.truth?
    let joined :=
      match before with
      | none => right
      | some left => joinTruth term.lead.connective left right
    levelTruth? joined rest

end

end

namespace Condition

variable {registry : Registry} {variant : String → Option String}

theorem holds_invert (condition : Condition) :
    condition.invert.holds variant = !condition.holds variant := by
  induction condition with
  | always => rfl
  | never => rfl
  | choice pivot name inverted =>
      simp [invert, holds]
  | and left right ihLeft ihRight => rw [invert, holds, holds, ihLeft, ihRight, Bool.not_and]
  | or left right ihLeft ihRight => rw [invert, holds, holds, ihLeft, ihRight, Bool.not_or]

theorem holds_negateIf (negated : Bool) (condition : Condition) :
    (condition.negateIf negated).holds variant =
      if negated then !condition.holds variant else condition.holds variant := by
  cases negated with
  | false => rfl
  | true => exact holds_invert condition

theorem holds_connect (connective : Option Connective) (left right : Condition) :
    (connect connective left right).holds variant =
      joinTruth connective (left.holds variant) (right.holds variant) := by
  match connective with
  | some .and => rfl
  | some .or => rfl
  | none => rfl

theorem wordTruth?_of_ofWord_eq_ok {word : String} {condition : Condition}
    (read : ofWord registry word = .ok condition) :
    wordTruth? registry variant word = some (condition.holds variant) := by
  rcases ofWord_eq_ok_iff.mp read with ⟨pivot, name, resolved, rfl⟩ | ⟨unresolved, constant⟩
  · simp [wordTruth?, resolved, holds]
  · by_cases isTrue : lowercase word = "true"
    · have same : always = condition := by simpa [constant?, isTrue] using constant
      simp [wordTruth?, unresolved, isTrue, ← same, holds]
    · have isFalse : lowercase word = "false" ∧ never = condition := by
        simpa [constant?, isTrue] using constant
      simp [wordTruth?, unresolved, isFalse.1, ← isFalse.2, holds]

mutual

theorem truth?_of_ofTerm_eq_ok {term : Term} {condition : Condition}
    (read : ofTerm registry term = .ok condition) :
    term.truth? registry variant = some (condition.holds variant) := by
  cases term with
  | word lead word =>
      rcases ofTerm_word_eq_ok_iff.mp read with ⟨plain, plainRead, rfl⟩
      rw [Term.truth?, wordTruth?_of_ofWord_eq_ok plainRead, holds_negateIf]
      rfl
  | group lead terms =>
      rcases ofTerm_group_eq_ok_iff.mp read with ⟨plain, plainRead, rfl⟩
      have inner := levelTruth?_of_ofTerms_eq_ok plainRead
      rw [Option.map_none] at inner
      rw [Term.truth?, inner, holds_negateIf]
      rfl

theorem levelTruth?_of_ofTerms_eq_ok {before : Option Condition} {terms : List Term}
    {condition : Condition} (read : ofTerms registry before terms = .ok condition) :
    levelTruth? registry variant (before.map (holds variant)) terms =
      some (condition.holds variant) := by
  cases terms with
  | nil =>
      obtain rfl := ofTerms_nil_eq_ok_iff.mp read
      cases before with
      | none => rfl
      | some left => rfl
  | cons term rest =>
      rcases ofTerms_cons_eq_ok_iff.mp read with ⟨right, termRead, restRead⟩
      have further := levelTruth?_of_ofTerms_eq_ok restRead
      rw [levelTruth?, truth?_of_ofTerm_eq_ok termRead]
      cases before with
      | none => exact further
      | some left =>
          simp only [Option.elim_some, Option.map_some, holds_connect] at further
          exact further

end

/-- The condition of a text is true of what the text says, read from left to right. -/
theorem levelTruth?_eq_holds_of_parse (registry : Registry) {text : String} {condition : Condition}
    (read : parse registry (some text) = .ok condition) (variant : String → Option String) :
    ∃ terms, splitTerms text = .ok terms ∧
      levelTruth? registry variant none terms = some (condition.holds variant) := by
  rcases parse_eq_ok_iff.mp read with ⟨terms, split, termsRead⟩
  exact ⟨terms, split, levelTruth?_of_ofTerms_eq_ok termsRead⟩

theorem levelTruth?_eq_holds_of_parse_of_example :
    let text := "!(x86 & !(Debug | TRUE)) | woa"
    let condition := or
      (or (choice "Platform" "Win32" true) (or (choice "Configuration" "Debug" false) always))
      (choice "Platform" "ARM" false)
    let variant := (Registry.Variant.standard Example.registry).choice?
    parse Example.registry (some text) = .ok condition ∧
      ∃ terms, splitTerms text = .ok terms ∧
        levelTruth? Example.registry variant none terms = some (condition.holds variant) :=
  ⟨Example.parse_negated_groups,
    levelTruth?_eq_holds_of_parse Example.registry Example.parse_negated_groups _⟩

end Condition

end Variants
