import Variants.Condition.Term

/-!
The grammar of conditions. An expression is empty, or it is a row of operands with an operator between
any two of them; an operand is a word or an expression in parentheses, after any number of negations.
A derivation consists of the tokens that it derives, each of the kind that its place asks for. It tells
which terms they are, and no two derivations derive the same tokens.
-/

namespace Variants

def Connective.kind : Connective → TokenKind
  | and => .and
  | or => .or

theorem Connective.kind_injective {one other : Connective} (same : one.kind = other.kind) :
    one = other := by
  cases one with
  | and =>
      cases other with
      | and => rfl
      | or => contradiction
  | or =>
      cases other with
      | and => contradiction
      | or => rfl

abbrev TokenOf (kind : TokenKind) : Type :=
  { token : Token // token.kind = kind }

theorem TokenOf.val_ne {kind another : TokenKind} (differ : kind ≠ another) (token : TokenOf kind)
    (other : TokenOf another) : token.val ≠ other.val := by
  intro same
  apply differ
  rw [← token.property, ← other.property, same]

namespace Grammar

structure Operator where
  connective : Connective
  token : Token
  kind_token : token.kind = connective.kind

mutual

inductive Operand
  | word (nots : List (TokenOf .not)) (word : TokenOf .word)
  | group (nots : List (TokenOf .not)) (opening : TokenOf .opening) (inner : Expression)
      (closing : TokenOf .closing)

/-- The operands after the first one, each with the operator before it. -/
inductive Tail
  | nil
  | cons (operator : Operator) (operand : Operand) (rest : Tail)

inductive Expression
  | empty
  | operands (first : Operand) (rest : Tail)

end

def notTokens (nots : List (TokenOf .not)) : List Token :=
  nots.map Subtype.val

mutual

def Operand.tokens : Operand → List Token
  | .word nots word => notTokens nots ++ [word.val]
  | .group nots opening inner closing =>
    notTokens nots ++ opening.val :: (inner.tokens ++ [closing.val])

def Tail.tokens : Tail → List Token
  | .nil => []
  | .cons operator operand rest => operator.token :: (operand.tokens ++ rest.tokens)

def Expression.tokens : Expression → List Token
  | .empty => []
  | .operands first rest => first.tokens ++ rest.tokens

end

/-- Negations of an odd number of characters altogether turn an operand into its opposite. -/
def negates (nots : List (TokenOf .not)) : Bool :=
  ((notTokens nots).flatMap (·.text.toList)).length % 2 == 1

mutual

def Operand.term (connective : Option Connective) : Operand → Term
  | .word nots word => .word ⟨connective, negates nots, word.val.position⟩ word.val.text
  | .group nots opening inner _ =>
    .group ⟨connective, negates nots, opening.val.position⟩ inner.terms

def Tail.terms : Tail → List Term
  | .nil => []
  | .cons operator operand rest => operand.term (some operator.connective) :: rest.terms

def Expression.terms : Expression → List Term
  | .empty => []
  | .operands first rest => first.term none :: rest.terms

end

theorem Operand.tokens_ne_nil (operand : Operand) : operand.tokens ≠ [] := by
  cases operand with
  | word nots word => simp [Operand.tokens]
  | group nots opening inner closing => simp [Operand.tokens]

theorem Expression.terms_eq_nil_iff (expression : Expression) :
    expression.terms = [] ↔ expression.tokens = [] := by
  cases expression with
  | empty => simp [Expression.terms, Expression.tokens]
  | operands first rest => simp [Expression.terms, Expression.tokens, first.tokens_ne_nil]

theorem notTokens_append_inj {nots others : List (TokenOf .not)} {token other : Token}
    {rest remaining : List Token} (proper : token.kind ≠ .not) (otherProper : other.kind ≠ .not)
    (same : notTokens nots ++ token :: rest = notTokens others ++ other :: remaining) :
    nots = others ∧ token = other ∧ rest = remaining := by
  induction nots generalizing others with
  | nil =>
      cases others with
      | nil => simpa [notTokens] using same
      | cons negation others =>
          have head : token = negation.val := (List.cons.inj same).1
          exact absurd (head ▸ negation.property) proper
  | cons first nots ih =>
      cases others with
      | nil =>
          have head : first.val = other := (List.cons.inj same).1
          exact absurd (head ▸ first.property) otherProper
      | cons negation others =>
          rcases List.cons.inj same with ⟨head, tail⟩
          rcases ih tail with ⟨rfl, rest⟩
          exact ⟨by rw [Subtype.ext head], rest⟩

theorem Operator.eq_of_token_eq {one other : Operator} (same : one.token = other.token) :
    one = other := by
  rcases one with ⟨connective, token, kind⟩
  rcases other with ⟨another, token', kind'⟩
  subst same
  obtain rfl := Connective.kind_injective (kind.symm.trans kind')
  rfl

def Closed (tokens : List Token) : Prop :=
  ∀ token ∈ tokens.head?, token.kind = .closing

theorem closed_nil : Closed [] := by
  intro token member
  contradiction

theorem closed_cons (closing : TokenOf .closing) (rest : List Token) :
    Closed (closing.val :: rest) := by
  intro token member
  rw [← Option.some.inj member]
  exact closing.property

theorem Operator.not_closed (operator : Operator) (rest : List Token) :
    ¬ Closed (operator.token :: rest) := by
  intro closed
  have kind := closed operator.token rfl
  rw [operator.kind_token] at kind
  cases connective : operator.connective <;> simp [connective, Connective.kind] at kind

theorem Operand.not_closed (operand : Operand) (rest : List Token) :
    ¬ Closed (operand.tokens ++ rest) := by
  intro closed
  cases operand with
  | word nots word =>
      cases nots with
      | nil => simpa [word.property] using closed word.val rfl
      | cons negation nots => simpa [negation.property] using closed negation.val rfl
  | group nots opening inner closing =>
      cases nots with
      | nil => simpa [opening.property] using closed opening.val rfl
      | cons negation nots => simpa [negation.property] using closed negation.val rfl

mutual

theorem Operand.tokens_append_inj {one other : Operand} {rest remaining : List Token}
    (same : one.tokens ++ rest = other.tokens ++ remaining) : one = other ∧ rest = remaining := by
  cases one with
  | word nots word =>
      cases other with
      | word nots' word' =>
          simp only [Operand.tokens, List.append_assoc, List.singleton_append] at same
          rcases notTokens_append_inj (by simp [word.property]) (by simp [word'.property]) same with
            ⟨rfl, sameWord, rfl⟩
          exact ⟨by rw [Subtype.ext sameWord], rfl⟩
      | group nots' opening' inner' closing' =>
          simp only [Operand.tokens, List.append_assoc, List.cons_append] at same
          have first := (notTokens_append_inj (by simp [word.property])
            (by simp [opening'.property]) same).2.1
          exact absurd first (TokenOf.val_ne (by decide) word opening')
  | group nots opening inner closing =>
      cases other with
      | word nots' word' =>
          simp only [Operand.tokens, List.append_assoc, List.cons_append] at same
          have first := (notTokens_append_inj (by simp [opening.property])
            (by simp [word'.property]) same).2.1
          exact absurd first (TokenOf.val_ne (by decide) opening word')
      | group nots' opening' inner' closing' =>
          simp only [Operand.tokens, List.append_assoc, List.cons_append] at same
          rcases notTokens_append_inj (by simp [opening.property]) (by simp [opening'.property])
            same with ⟨rfl, sameOpening, inside⟩
          rcases Expression.tokens_append_inj (closed_cons _ _) (closed_cons _ _) inside with
            ⟨rfl, after⟩
          rcases List.cons.inj after with ⟨sameClosing, rfl⟩
          exact ⟨by rw [Subtype.ext sameOpening, Subtype.ext sameClosing], rfl⟩

theorem Tail.tokens_append_inj {one other : Tail} {rest remaining : List Token}
    (closed : Closed rest) (otherClosed : Closed remaining)
    (same : one.tokens ++ rest = other.tokens ++ remaining) : one = other ∧ rest = remaining := by
  cases one with
  | nil =>
      cases other with
      | nil => exact ⟨rfl, same⟩
      | cons operator' operand' tail' =>
          rw [show rest = _ from same] at closed
          exact absurd closed (operator'.not_closed _)
  | cons operator operand tail =>
      cases other with
      | nil =>
          rw [← show _ = remaining from same] at otherClosed
          exact absurd otherClosed (operator.not_closed _)
      | cons operator' operand' tail' =>
          simp only [Tail.tokens, List.cons_append, List.append_assoc, List.cons.injEq] at same
          rcases same with ⟨sameOperator, after⟩
          rcases Operand.tokens_append_inj after with ⟨rfl, further⟩
          rcases Tail.tokens_append_inj closed otherClosed further with ⟨rfl, rfl⟩
          exact ⟨by rw [Operator.eq_of_token_eq sameOperator], rfl⟩

theorem Expression.tokens_append_inj {one other : Expression} {rest remaining : List Token}
    (closed : Closed rest) (otherClosed : Closed remaining)
    (same : one.tokens ++ rest = other.tokens ++ remaining) : one = other ∧ rest = remaining := by
  cases one with
  | empty =>
      cases other with
      | empty => exact ⟨rfl, same⟩
      | operands first' tail' =>
          rw [show rest = _ from same, Expression.tokens, List.append_assoc] at closed
          exact absurd closed (first'.not_closed _)
  | operands first tail =>
      cases other with
      | empty =>
          rw [← show _ = remaining from same, Expression.tokens, List.append_assoc] at otherClosed
          exact absurd otherClosed (first.not_closed _)
      | operands first' tail' =>
          simp only [Expression.tokens, List.append_assoc] at same
          rcases Operand.tokens_append_inj same with ⟨rfl, further⟩
          rcases Tail.tokens_append_inj closed otherClosed further with ⟨rfl, rfl⟩
          exact ⟨rfl, rfl⟩

end

theorem Expression.tokens_injective {one other : Expression} (same : one.tokens = other.tokens) :
    one = other := by
  have padded : one.tokens ++ [] = other.tokens ++ [] := by rw [same]
  exact (tokens_append_inj closed_nil closed_nil padded).1

end Grammar

end Variants
