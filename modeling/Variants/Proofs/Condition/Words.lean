import Variants.Proofs.Condition.Arranging
import Variants.Proofs.Condition.Parsing
import Variants.Template.Rendering

/-!
The words of a text, in the order in which they stand in it. Terms keep them in that order, so a text
whose terms can be read states a condition iff each of its words names a choice or is a constant, and
fails at the first word that does neither.
-/

namespace Variants

open Grammar

def wordsOf (tokens : List Token) : List String :=
  (tokens.filter (·.kind == .word)).map (·.text)

def words (text : String) : List String :=
  wordsOf (tokenize text)

mutual

def Term.words : Term → List String
  | .word _ text => [text]
  | .group _ terms => levelWords terms

def levelWords : List Term → List String
  | [] => []
  | term :: rest => term.words ++ levelWords rest

end

theorem mem_levelWords {terms : List Term} {word : String} :
    word ∈ levelWords terms ↔ ∃ term ∈ terms, word ∈ term.words := by
  induction terms with
  | nil => simp [levelWords]
  | cons term rest ih => rw [levelWords, List.mem_append, ih, List.exists_mem_cons_iff]

theorem wordsOf_append (tokens others : List Token) :
    wordsOf (tokens ++ others) = wordsOf tokens ++ wordsOf others := by
  rw [wordsOf, List.filter_append, List.map_append]
  rfl

theorem wordsOf_cons_of_word (token : TokenOf .word) (rest : List Token) :
    wordsOf (token.val :: rest) = token.val.text :: wordsOf rest := by
  simp [wordsOf, token.property]

theorem wordsOf_cons_of_ne {token : Token} (other : token.kind ≠ .word) (rest : List Token) :
    wordsOf (token :: rest) = wordsOf rest := by
  simp [wordsOf, other]

theorem wordsOf_notTokens (nots : List (TokenOf .not)) : wordsOf (notTokens nots) = [] := by
  induction nots with
  | nil => rfl
  | cons negation nots ih =>
      have other : negation.val.kind ≠ .word := by simp [negation.property]
      rw [notTokens, List.map_cons, wordsOf_cons_of_ne other]
      exact ih

namespace Grammar

theorem Operator.kind_token_ne_word (operator : Operator) : operator.token.kind ≠ .word := by
  rw [operator.kind_token]
  cases operator.connective with
  | and => simp [Connective.kind]
  | or => simp [Connective.kind]

mutual

theorem Operand.words_term (operand : Operand) (connective : Option Connective) :
    (operand.term connective).words = wordsOf operand.tokens := by
  cases operand with
  | word nots word =>
      rw [Operand.tokens, wordsOf_append, wordsOf_notTokens, wordsOf_cons_of_word]
      rfl
  | group nots opening inner closing =>
      have openingOther : opening.val.kind ≠ .word := by simp [opening.property]
      have closingOther : closing.val.kind ≠ .word := by simp [closing.property]
      rw [Operand.tokens, wordsOf_append, wordsOf_notTokens, wordsOf_cons_of_ne openingOther,
        wordsOf_append, wordsOf_cons_of_ne closingOther, ← Expression.words_terms inner]
      simp [Operand.term, Term.words, wordsOf]

theorem Tail.words_terms (tail : Tail) : levelWords tail.terms = wordsOf tail.tokens := by
  cases tail with
  | nil => rfl
  | cons operator operand tail =>
      rw [Tail.tokens, Tail.terms, levelWords, wordsOf_cons_of_ne operator.kind_token_ne_word,
        wordsOf_append, Operand.words_term operand, Tail.words_terms tail]

theorem Expression.words_terms (expression : Expression) :
    levelWords expression.terms = wordsOf expression.tokens := by
  cases expression with
  | empty => rfl
  | operands first tail =>
      rw [Expression.tokens, Expression.terms, levelWords, wordsOf_append, Operand.words_term first,
        Tail.words_terms tail]

end

end Grammar

theorem levelWords_eq_words {text : String} {terms : List Term} (split : splitTerms text = .ok terms) :
    levelWords terms = words text := by
  rcases splitTerms_eq_ok_iff.mp split with ⟨expression, derives, rfl⟩
  rw [words, ← derives, Expression.words_terms]

namespace Registry

def unknown (registry : Registry) (word : String) : Bool :=
  (registry.resolve? word).isNone && !isConstantWord word

/-- The failure of the first word that names nothing. -/
def unresolved? (registry : Registry) (words : List String) : Option Error :=
  (words.find? registry.unknown).map .unresolvedChoice

theorem unresolved?_append (registry : Registry) (words others : List String) :
    registry.unresolved? (words ++ others) =
      (registry.unresolved? words).or (registry.unresolved? others) := by
  rw [unresolved?, List.find?_append, Option.map_or]
  rfl

theorem unresolved?_eq_none {registry : Registry} {words : List String}
    (known : ∀ word ∈ words, registry.unknown word = false) : registry.unresolved? words = none := by
  rw [unresolved?, Option.map_eq_none_iff, List.find?_eq_none]
  intro word member
  simp [known word member]

/-- The choices that a text names, in the order of its words. -/
def mentions (registry : Registry) (text : String) : List Mark :=
  (words text).filterMap registry.resolve?

end Registry

def FailsWith {α : Type} (cause? : Option Error) (outcome : Except Error α) : Prop :=
  match cause? with
  | some cause => outcome = .error cause
  | none => ∃ a, outcome = .ok a

namespace FailsWith

variable {α β : Type} {cause? other? : Option Error} {outcome : Except Error α}

theorem eq_error_iff (fails : FailsWith cause? outcome) {cause : Error} :
    outcome = .error cause ↔ cause? = some cause := by
  cases cause? with
  | none =>
      rcases fails with ⟨a, rfl⟩
      simp
  | some known =>
      obtain rfl : outcome = _ := fails
      simp

theorem eq_none_of_ok (fails : FailsWith cause? outcome) {a : α} (succeeds : outcome = .ok a) :
    cause? = none := by
  rw [Option.eq_none_iff_forall_ne_some]
  intro cause wrong
  rw [fails.eq_error_iff.mpr wrong] at succeeds
  contradiction

theorem exists_eq_ok (fails : FailsWith none outcome) : ∃ a, outcome = .ok a := fails

theorem map (fails : FailsWith cause? outcome) (f : α → β) : FailsWith cause? (outcome.map f) := by
  cases cause? with
  | none =>
      rcases fails with ⟨a, rfl⟩
      exact ⟨f a, rfl⟩
  | some cause =>
      obtain rfl : outcome = _ := fails
      rfl

theorem bind (fails : FailsWith cause? outcome) {next : α → Except Error β}
    (continues : ∀ a, FailsWith other? (next a)) :
    FailsWith (cause?.or other?) (outcome.bind next) := by
  cases cause? with
  | none =>
      rcases fails with ⟨a, rfl⟩
      exact continues a
  | some cause =>
      obtain rfl : outcome = _ := fails
      rfl

theorem bind_of_ok (fails : FailsWith cause? outcome) {next : α → Except Error β}
    (succeeds : ∀ a, ∃ b, next a = .ok b) : FailsWith cause? (outcome.bind next) := by
  have continues : ∀ a, FailsWith none (next a) := succeeds
  simpa using fails.bind continues

end FailsWith

namespace Condition

variable {registry : Registry}

theorem isSome_constant? (word : String) : (constant? word).isSome = isConstantWord word := by
  rw [constant?, isConstantWord]
  split
  · rename_i isTrue
    simp [isTrue]
  · split
    · rename_i isFalse
      simp [isFalse]
    · rename_i notTrue notFalse
      simp [notTrue, notFalse]

theorem failsWith_ofWord (registry : Registry) (word : String) :
    FailsWith (registry.unresolved? [word]) (ofWord registry word) := by
  have constants := isSome_constant? word
  rw [Registry.unresolved?, List.find?_singleton, Registry.unknown, ofWord, ← constants]
  cases registry.resolve? word with
  | some found => exact ⟨_, rfl⟩
  | none =>
      cases constant? word with
      | some condition => exact ⟨condition, rfl⟩
      | none => rfl

mutual

theorem failsWith_ofTerm (registry : Registry) (term : Term) :
    FailsWith (registry.unresolved? term.words) (ofTerm registry term) := by
  cases term with
  | word lead word =>
      rw [Term.words, ofTerm]
      exact (failsWith_ofWord registry word).map _
  | group lead terms =>
      rw [Term.words, ofTerm]
      exact (failsWith_ofTerms registry none terms).map _

theorem failsWith_ofTerms (registry : Registry) (before : Option Condition) (terms : List Term) :
    FailsWith (registry.unresolved? (levelWords terms)) (ofTerms registry before terms) := by
  cases terms with
  | nil =>
      rw [levelWords, ofTerms]
      exact ⟨_, rfl⟩
  | cons term rest =>
      rw [levelWords, Registry.unresolved?_append, ofTerms]
      apply (failsWith_ofTerm registry term).bind
      intro right
      exact failsWith_ofTerms registry _ rest

end

theorem resolves_of_ofWord_eq_ok {word : String} {condition : Condition}
    (read : ofWord registry word = .ok condition) : registry.unresolved? [word] = none :=
  (failsWith_ofWord registry word).eq_none_of_ok read

theorem resolves_of_ofTerms_eq_ok {before : Option Condition} {terms : List Term}
    {condition : Condition} (read : ofTerms registry before terms = .ok condition) :
    registry.unresolved? (levelWords terms) = none :=
  (failsWith_ofTerms registry before terms).eq_none_of_ok read

end Condition

end Variants
