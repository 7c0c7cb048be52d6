import Variants.Example
import Variants.Proofs.Condition.Meaning
import Variants.Proofs.Outcome

/-!
Conditions that texts state. A word is resolved to a declared choice or not at all, and negation and
connectives keep the choices of their operands, so no text leads out of the registry.
-/

namespace Variants

variable {registry : Registry}

namespace Registry

theorem declares_of_byName?_eq_some {token name choice : String}
    (found : registry.byName? token = some (name, choice)) : registry.Declares name choice := by
  rcases Option.map_eq_some_iff.mp found with ⟨pivot, first, same⟩
  rcases Prod.mk.inj same with ⟨rfl, rfl⟩
  have declared := List.find?_some first
  exact ⟨pivot, List.mem_of_find?_eq_some first, rfl, by simpa using declared⟩

theorem declares_of_byAlias?_eq_some {token name choice : String}
    (found : registry.byAlias? token = some (name, choice)) : registry.Declares name choice := by
  rcases List.exists_of_findSome?_eq_some found with ⟨pivot, present, matched⟩
  rcases Option.map_eq_some_iff.mp matched with ⟨named, first, same⟩
  rcases Prod.mk.inj same with ⟨rfl, rfl⟩
  exact ⟨pivot, present, rfl, List.mem_map_of_mem (List.mem_of_find?_eq_some first)⟩

theorem declares_of_resolve?_eq_some {token name choice : String}
    (found : registry.resolve? token = some (name, choice)) : registry.Declares name choice := by
  rcases Option.or_eq_some_iff.mp found with exact | ⟨_, byAlias⟩
  · exact declares_of_byName?_eq_some exact
  · exact declares_of_byAlias?_eq_some byAlias

end Registry

namespace Condition

theorem ofWord_eq_ok_iff {word : String} {condition : Condition} :
    ofWord registry word = .ok condition ↔
      (∃ pivot name, registry.resolve? word = some (pivot, name) ∧
        choice pivot name false = condition) ∨
      (registry.resolve? word = none ∧ constant? word = some condition) := by
  rw [ofWord]
  cases resolved : registry.resolve? word with
  | some found =>
      rcases found with ⟨pivot, name⟩
      simp [and_assoc]
  | none => cases constant : constant? word <;> simp

theorem ofTerm_word_eq_ok_iff {lead : Lead} {word : String} {condition : Condition} :
    ofTerm registry (.word lead word) = .ok condition ↔
      ∃ plain, ofWord registry word = .ok plain ∧ plain.negateIf lead.negated = condition := by
  rw [ofTerm, Outcome.map_eq_ok_iff]

theorem ofTerm_group_eq_ok_iff {lead : Lead} {terms : List Term} {condition : Condition} :
    ofTerm registry (.group lead terms) = .ok condition ↔
      ∃ plain, ofTerms registry none terms = .ok plain ∧ plain.negateIf lead.negated = condition := by
  rw [ofTerm, Outcome.map_eq_ok_iff]

theorem ofTerms_nil_eq_ok_iff {before : Option Condition} {condition : Condition} :
    ofTerms registry before [] = .ok condition ↔ before.getD always = condition := by
  rw [ofTerms, Except.ok.injEq]

theorem ofTerms_cons_eq_ok_iff {before : Option Condition} {term : Term} {rest : List Term}
    {condition : Condition} :
    ofTerms registry before (term :: rest) = .ok condition ↔
      ∃ right, ofTerm registry term = .ok right ∧
        ofTerms registry (some (before.elim right (connect term.lead.connective · right))) rest =
          .ok condition := by
  rw [ofTerms, Outcome.bind_eq_ok_iff]
  cases before with
  | none => rfl
  | some left => rfl

theorem parse_eq_ok_iff {text : String} {condition : Condition} :
    parse registry (some text) = .ok condition ↔
      ∃ terms, splitTerms text = .ok terms ∧ ofTerms registry none terms = .ok condition := by
  rw [parse, Outcome.bind_eq_ok_iff]

theorem declared_invert {condition : Condition} (declared : condition.Declared registry) :
    condition.invert.Declared registry := by
  induction condition with
  | always => trivial
  | never => trivial
  | choice pivot name inverted => exact declared
  | and left right ihLeft ihRight => exact ⟨ihLeft declared.1, ihRight declared.2⟩
  | or left right ihLeft ihRight => exact ⟨ihLeft declared.1, ihRight declared.2⟩

theorem declared_negateIf {condition : Condition} (negated : Bool)
    (declared : condition.Declared registry) : (condition.negateIf negated).Declared registry := by
  cases negated with
  | false => exact declared
  | true => exact declared_invert declared

theorem declared_connect {connective : Option Connective} {left right : Condition}
    (leftDeclared : left.Declared registry) (rightDeclared : right.Declared registry) :
    (connect connective left right).Declared registry := by
  unfold connect
  split
  · exact ⟨leftDeclared, rightDeclared⟩
  · exact ⟨leftDeclared, rightDeclared⟩

theorem declared_of_constant?_eq_some {word : String} {condition : Condition}
    (found : constant? word = some condition) : condition.Declared registry := by
  rw [constant?] at found
  split at found
  · cases found
    trivial
  · split at found
    · cases found
      trivial
    · contradiction

theorem declared_of_ofWord_eq_ok {word : String} {condition : Condition}
    (read : ofWord registry word = .ok condition) : condition.Declared registry := by
  rcases ofWord_eq_ok_iff.mp read with ⟨pivot, name, resolved, rfl⟩ | ⟨_, constant⟩
  · exact Registry.declares_of_resolve?_eq_some resolved
  · exact declared_of_constant?_eq_some constant

mutual

theorem declared_of_ofTerm_eq_ok {term : Term} {condition : Condition}
    (read : ofTerm registry term = .ok condition) : condition.Declared registry := by
  cases term with
  | word lead word =>
      rcases ofTerm_word_eq_ok_iff.mp read with ⟨plain, plainRead, rfl⟩
      exact declared_negateIf _ (declared_of_ofWord_eq_ok plainRead)
  | group lead terms =>
      rcases ofTerm_group_eq_ok_iff.mp read with ⟨plain, plainRead, rfl⟩
      apply declared_negateIf
      exact declared_of_ofTerms_eq_ok plainRead fun left absent => by contradiction

theorem declared_of_ofTerms_eq_ok {before : Option Condition} {terms : List Term}
    {condition : Condition} (read : ofTerms registry before terms = .ok condition)
    (declared : ∀ left, before = some left → left.Declared registry) :
    condition.Declared registry := by
  cases terms with
  | nil =>
      obtain rfl := ofTerms_nil_eq_ok_iff.mp read
      cases before with
      | none => trivial
      | some left => exact declared left rfl
  | cons term rest =>
      rcases ofTerms_cons_eq_ok_iff.mp read with ⟨right, termRead, restRead⟩
      have rightDeclared := declared_of_ofTerm_eq_ok termRead
      apply declared_of_ofTerms_eq_ok restRead
      intro joined same
      cases before with
      | none =>
          cases same
          exact rightDeclared
      | some left =>
          cases same
          exact declared_connect (declared left rfl) rightDeclared

end

theorem declared_of_parse_eq_ok {text : Option String} {condition : Condition}
    (read : parse registry text = .ok condition) : condition.Declared registry := by
  cases text with
  | none =>
      cases read
      trivial
  | some text =>
      rcases parse_eq_ok_iff.mp read with ⟨terms, _, termsRead⟩
      exact declared_of_ofTerms_eq_ok termsRead fun left absent => by contradiction

theorem parse_eq_ok_of_toOption {text : Option String} {condition : Condition}
    (read : (parse registry text).toOption = some condition) : parse registry text = .ok condition := by
  cases outcome : parse registry text with
  | error cause =>
      rw [outcome] at read
      contradiction
  | ok other =>
      rw [outcome] at read
      exact congrArg Except.ok (Option.some.inj read)

end Condition

namespace Example

theorem parse_platform_first :
    Condition.parse Example.registry (some "x86 & Debug") =
      .ok (.and (.choice "Platform" "Win32" false) (.choice "Configuration" "Debug" false)) := by
  apply Condition.parse_eq_ok_of_toOption
  decide +kernel

theorem parse_configuration_first :
    Condition.parse Example.registry (some "Debug & x86") =
      .ok (.and (.choice "Configuration" "Debug" false) (.choice "Platform" "Win32" false)) := by
  apply Condition.parse_eq_ok_of_toOption
  decide +kernel

theorem parse_negated_groups :
    Condition.parse Example.registry (some "!(x86 & !(Debug | TRUE)) | woa") =
      .ok (.or
        (.or (.choice "Platform" "Win32" true) (.or (.choice "Configuration" "Debug" false) .always))
        (.choice "Platform" "ARM" false)) := by
  apply Condition.parse_eq_ok_of_toOption
  decide +kernel

end Example

end Variants
