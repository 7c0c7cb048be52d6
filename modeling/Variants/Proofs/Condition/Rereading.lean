import Variants.Proofs.Condition.Writing

/-!
Reading what was written. In a plain registry, the text that is written for terms derives terms that state
the very condition of the terms that it was written for, whatever the connectives are written like, and
the derived terms are written as the same text again.
-/

namespace Variants

open Grammar

variable {registry : Registry} {script : Script}

@[simp]
theorem lowercase_true : lowercase "true" = "true" := rfl

@[simp]
theorem lowercase_false : lowercase "false" = "false" := rfl

theorem Registry.written_of_declares (plain : registry.Plain) {name choice : String}
    (declared : registry.Declares name choice) : registry.written choice = choice := by
  rw [written, plain.resolve?_of_declares declared]

theorem Registry.written_written (plain : registry.Plain) {word : String}
    (resolves : registry.unresolved? [word] = none) :
    registry.written (registry.written word) = registry.written word := by
  rcases written_cases resolves with ⟨pivot, choice, resolved, same⟩ | ⟨_, same, isTrue | isFalse⟩
  · rw [same]
    exact written_of_declares plain (declares_of_resolve?_eq_some resolved)
  · rw [same, isTrue, written, plain.always_free, lowercase_true]
  · rw [same, isFalse, written, plain.never_free, lowercase_false]

theorem Registry.written_true (plain : registry.Plain) : registry.written "true" = "true" := by
  rw [written, plain.always_free, lowercase_true]

theorem termLexemes_ne_nil (registry : Registry) (script : Script) (term : Term) :
    term.lexemes registry script ≠ [] := by
  cases term with
  | word lead word => simp [Term.lexemes]
  | group lead terms =>
      rw [Term.lexemes]
      split
      · exact List.cons_ne_nil _ _
      · exact List.cons_ne_nil _ _

theorem levelLexemes_first (term : Term) (rest : List Term) :
    levelLexemes registry script true (term :: rest) =
      (term.lead.signs ++ term.lexemes registry script) ++ levelLexemes registry script false rest := by
  simp [levelLexemes, Script.lead]

theorem levelLexemes_later (term : Term) (rest : List Term) :
    levelLexemes registry script false (term :: rest) =
      script.operator (term.lead.connective.getD .or) ::
        ((term.lead.signs ++ term.lexemes registry script) ++
          levelLexemes registry script false rest) := by
  simp [levelLexemes, Script.lead]

theorem levelLexemes_eq_nil_iff (registry : Registry) (script : Script) {first : Bool}
    {terms : List Term} :
    levelLexemes registry script first terms = [] ↔ terms = [] := by
  cases terms with
  | nil => simp [levelLexemes]
  | cons term rest => simp [levelLexemes, termLexemes_ne_nil]

namespace Condition

theorem constant?_cases {word : String} {condition : Condition}
    (constant : constant? word = some condition) :
    lowercase word = "true" ∧ condition = always ∨ lowercase word = "false" ∧ condition = never := by
  by_cases isTrue : lowercase word = "true"
  · have same : always = condition := by simpa [constant?, isTrue] using constant
    exact .inl ⟨isTrue, same.symm⟩
  · have isFalse : lowercase word = "false" ∧ never = condition := by
      simpa [constant?, isTrue] using constant
    exact .inr ⟨isFalse.1, isFalse.2.symm⟩

theorem ofWord_written (plain : registry.Plain) {word : String} {condition : Condition}
    (read : ofWord registry word = .ok condition) :
    ofWord registry (registry.written word) = .ok condition := by
  rcases ofWord_eq_ok_iff.mp read with ⟨pivot, name, resolved, same⟩ | ⟨unresolved, constant⟩
  · have named := plain.resolve?_of_declares (Registry.declares_of_resolve?_eq_some resolved)
    have written : registry.written word = name := by rw [Registry.written, resolved]
    rw [written]
    exact ofWord_eq_ok_iff.mpr (.inl ⟨pivot, name, named, same⟩)
  · have written : registry.written word = lowercase word := by rw [Registry.written, unresolved]
    rw [written]
    rcases constant?_cases constant with ⟨isTrue, rfl⟩ | ⟨isFalse, rfl⟩
    · rw [isTrue]
      exact ofWord_eq_ok_iff.mpr (.inr ⟨plain.always_free, rfl⟩)
    · rw [isFalse]
      exact ofWord_eq_ok_iff.mpr (.inr ⟨plain.never_free, rfl⟩)

theorem ofWord_true (plain : registry.Plain) : ofWord registry "true" = .ok always := by
  rw [ofWord, plain.always_free]
  rfl

theorem connect_getD (connective : Option Connective) (left right : Condition) :
    connect (some (connective.getD .or)) left right = connect connective left right := by
  match connective with
  | some .and => rfl
  | some .or => rfl
  | none => rfl

end Condition

theorem exists_nots_of_signs {lead : Lead} {tokens : List Token}
    (written : tokens.map Token.lexeme = lead.signs) :
    ∃ nots : List (TokenOf .not), notTokens nots = tokens ∧ negates nots = lead.negated := by
  cases negated : lead.negated with
  | false =>
      rw [Lead.signs, negated] at written
      obtain rfl := List.map_eq_nil_iff.mp written
      exact ⟨[], rfl, rfl⟩
  | true =>
      rw [Lead.signs, negated] at written
      rcases List.map_eq_singleton_iff.mp written with ⟨token, rfl, same⟩
      have kind : token.kind = .not := congrArg Lexeme.kind same
      have text : token.text = "!" := congrArg Lexeme.text same
      refine ⟨[⟨token, kind⟩], rfl, ?_⟩
      simp [negates, notTokens, text]

theorem Lead.signs_congr {lead other : Lead} (same : lead.negated = other.negated) :
    lead.signs = other.signs := by
  rw [signs, signs, same]

theorem Grammar.Operand.lead_term (operand : Operand) (connective : Option Connective) :
    (operand.term connective).lead.connective = connective := by
  cases operand with
  | word nots word => rfl
  | group nots opening inner closing => rfl

mutual

theorem exists_operand_of_written (plain : registry.Plain) {term : Term} {condition : Condition}
    (read : Condition.ofTerm registry term = .ok condition) {tokens : List Token}
    (written : tokens.map Token.lexeme = term.lead.signs ++ term.lexemes registry script) :
    ∃ operand : Operand, operand.tokens = tokens ∧ ∀ connective,
      Condition.ofTerm registry (operand.term connective) = .ok condition ∧
      (operand.term connective).lead.signs ++ (operand.term connective).lexemes registry script =
        tokens.map Token.lexeme := by
  rcases List.map_eq_append_iff.mp written with ⟨signTokens, rest, rfl, signs, operand⟩
  rcases exists_nots_of_signs signs with ⟨nots, rfl, parity⟩
  rw [List.map_append, signs]
  have signed (connective : Option Connective) (position : Nat) :
      Lead.signs ⟨connective, negates nots, position⟩ = term.lead.signs := Lead.signs_congr parity
  cases term with
  | word lead word =>
      rcases Condition.ofTerm_word_eq_ok_iff.mp read with ⟨plainly, wordRead, rfl⟩
      rw [Term.lexemes] at operand
      rcases List.map_eq_singleton_iff.mp operand with ⟨token, rfl, same⟩
      have kind : token.kind = .word := congrArg Lexeme.kind same
      have text : token.text = registry.written word := congrArg Lexeme.text same
      refine ⟨.word nots ⟨token, kind⟩, rfl, ?_⟩
      intro connective
      constructor
      · apply Condition.ofTerm_word_eq_ok_iff.mpr
        refine ⟨plainly, ?_, by rw [parity]; rfl⟩
        rw [text]
        exact Condition.ofWord_written plain wordRead
      · have resolves := Condition.resolves_of_ofWord_eq_ok wordRead
        rw [Operand.term, Term.lead, signed, Term.lexemes, text, Registry.written_written plain resolves,
          List.map_singleton, same]
  | group lead terms =>
      rcases Condition.ofTerm_group_eq_ok_iff.mp read with ⟨plainly, termsRead, rfl⟩
      rw [Term.lexemes] at operand
      split at operand
      · -- A group without terms is written as a constant, so a word stands in its place.
        rename_i empty
        rw [List.isEmpty_iff.mp empty] at termsRead
        obtain rfl := Condition.ofTerms_nil_eq_ok_iff.mp termsRead
        rcases List.map_eq_singleton_iff.mp operand with ⟨token, rfl, same⟩
        have kind : token.kind = .word := congrArg Lexeme.kind same
        have text : token.text = "true" := congrArg Lexeme.text same
        refine ⟨.word nots ⟨token, kind⟩, rfl, ?_⟩
        intro connective
        constructor
        · apply Condition.ofTerm_word_eq_ok_iff.mpr
          refine ⟨.always, ?_, by rw [parity]; rfl⟩
          rw [text]
          exact Condition.ofWord_true plain
        · rw [Operand.term, Term.lead, signed, Term.lexemes, text, Registry.written_true plain,
            List.map_singleton, same]
          rfl
      · rename_i nonempty
        rcases List.map_eq_cons_iff.mp operand with ⟨opening, others, rfl, isOpening, inside⟩
        rcases List.map_eq_append_iff.mp inside with ⟨innerTokens, last, rfl, inner, isLast⟩
        rcases List.map_eq_singleton_iff.mp isLast with ⟨closing, rfl, isClosing⟩
        have openingKind : opening.kind = .opening := congrArg Lexeme.kind isOpening
        have closingKind : closing.kind = .closing := congrArg Lexeme.kind isClosing
        rcases exists_expression_of_written plain termsRead inner with
          ⟨expression, rfl, innerRead, innerWritten⟩
        refine ⟨.group nots ⟨opening, openingKind⟩ expression ⟨closing, closingKind⟩, rfl, ?_⟩
        intro connective
        constructor
        · apply Condition.ofTerm_group_eq_ok_iff.mpr
          exact ⟨plainly, innerRead, by rw [parity]; rfl⟩
        · have filled : expression.terms.isEmpty = false := by
            rw [List.isEmpty_eq_false_iff, ne_eq, ← levelLexemes_eq_nil_iff registry script, innerWritten,
              inner, levelLexemes_eq_nil_iff]
            simpa using nonempty
          rw [Operand.term, Term.lead, signed, Term.lexemes, filled, innerWritten]
          simp [isOpening, isClosing, Term.lead]

theorem exists_tail_of_written (plain : registry.Plain) {before : Condition} {terms : List Term}
    {condition : Condition} (read : Condition.ofTerms registry (some before) terms = .ok condition)
    {tokens : List Token}
    (written : tokens.map Token.lexeme = levelLexemes registry script false terms) :
    ∃ tail : Tail, tail.tokens = tokens ∧
      Condition.ofTerms registry (some before) tail.terms = .ok condition ∧
      levelLexemes registry script false tail.terms = tokens.map Token.lexeme := by
  cases terms with
  | nil =>
      rw [levelLexemes] at written
      obtain rfl := List.map_eq_nil_iff.mp written
      exact ⟨.nil, rfl, read, rfl⟩
  | cons term rest =>
      rcases Condition.ofTerms_cons_eq_ok_iff.mp read with ⟨right, termRead, restRead⟩
      rw [levelLexemes_later] at written
      rcases List.map_eq_cons_iff.mp written with ⟨operator, others, rfl, isOperator, following⟩
      rcases List.map_eq_append_iff.mp following with ⟨first, later, rfl, firstWritten, laterWritten⟩
      have kind : operator.kind = (term.lead.connective.getD .or).kind :=
        congrArg Lexeme.kind isOperator
      rcases exists_operand_of_written plain termRead firstWritten with ⟨operand, rfl, operandFacts⟩
      rcases exists_tail_of_written plain restRead laterWritten with
        ⟨tail, rfl, tailRead, tailWritten⟩
      have ⟨operandRead, operandWritten⟩ := operandFacts (some (term.lead.connective.getD .or))
      refine ⟨.cons ⟨_, operator, kind⟩ operand tail, rfl, ?_, ?_⟩
      · apply Condition.ofTerms_cons_eq_ok_iff.mpr
        refine ⟨right, operandRead, ?_⟩
        rw [operand.lead_term, Option.elim_some, Condition.connect_getD]
        exact tailRead
      · rw [Tail.terms, levelLexemes_later, operand.lead_term, tailWritten, operandWritten]
        simp [isOperator]

theorem exists_expression_of_written (plain : registry.Plain) {terms : List Term}
    {condition : Condition} (read : Condition.ofTerms registry none terms = .ok condition)
    {tokens : List Token}
    (written : tokens.map Token.lexeme = levelLexemes registry script true terms) :
    ∃ expression : Expression, expression.tokens = tokens ∧
      Condition.ofTerms registry none expression.terms = .ok condition ∧
      levelLexemes registry script true expression.terms = tokens.map Token.lexeme := by
  cases terms with
  | nil =>
      rw [levelLexemes] at written
      obtain rfl := List.map_eq_nil_iff.mp written
      exact ⟨.empty, rfl, read, rfl⟩
  | cons term rest =>
      rcases Condition.ofTerms_cons_eq_ok_iff.mp read with ⟨right, termRead, restRead⟩
      rw [levelLexemes_first] at written
      rcases List.map_eq_append_iff.mp written with ⟨first, later, rfl, firstWritten, laterWritten⟩
      rcases exists_operand_of_written plain termRead firstWritten with ⟨operand, rfl, operandFacts⟩
      rcases exists_tail_of_written plain restRead laterWritten with
        ⟨tail, rfl, tailRead, tailWritten⟩
      have ⟨operandRead, operandWritten⟩ := operandFacts none
      refine ⟨.operands operand tail, rfl, ?_, ?_⟩
      · exact Condition.ofTerms_cons_eq_ok_iff.mpr ⟨right, operandRead, tailRead⟩
      · rw [Expression.terms, levelLexemes_first, tailWritten, operandWritten, List.map_append]

end

/-- The text that is written for terms is read as terms of the same condition, which are written as the
same text. -/
theorem exists_splitTerms_written (plain : registry.Plain) (script : Script) {terms : List Term}
    {condition : Condition} (read : Condition.ofTerms registry none terms = .ok condition) :
    ∃ restated, splitTerms (lexemesText (levelLexemes registry script true terms)) = .ok restated ∧
      Condition.ofTerms registry none restated = .ok condition ∧
      levelLexemes registry script true restated = levelLexemes registry script true terms := by
  have written := lexemes_tokenize_level plain script (Condition.resolves_of_ofTerms_eq_ok read)
  rcases exists_expression_of_written plain read written with
    ⟨expression, derives, expressionRead, rewritten⟩
  have split := splitTerms_eq_ok_iff.mpr ⟨expression, derives, rfl⟩
  exact ⟨expression.terms, split, expressionRead, rewritten.trans written⟩

theorem Condition.parse_written (plain : registry.Plain) (script : Script) {terms : List Term}
    {condition : Condition} (read : ofTerms registry none terms = .ok condition) :
    parse registry (some (lexemesText (levelLexemes registry script true terms))) = .ok condition := by
  rcases exists_splitTerms_written plain script read with ⟨restated, split, restatedRead, _⟩
  exact parse_eq_ok_iff.mpr ⟨restated, split, restatedRead⟩

end Variants
