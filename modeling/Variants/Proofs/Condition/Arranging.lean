import Variants.Error
import Variants.Proofs.Condition.Grammar
import Variants.Proofs.Condition.Scanning
import Variants.Proofs.Outcome

/-!
The arranger and the grammar. The arranger accepts exactly the tokens of a derivation, and gives the
terms of that derivation. What it has read of a text determines, level by level, what may follow.
-/

namespace Variants

open Grammar

namespace Level

variable {level : Level}

theorem close_eq_ok_iff {terms : List Term} :
    level.close = .ok terms ↔
      level.connective = none ∧ level.lastNot = none ∧ level.terms = terms := by
  cases lastNot : level.lastNot <;> cases connective : level.connective <;>
    simp [close, lastNot, connective]

theorem connect_eq_ok_iff {connective : Connective} {position : Nat} {next : Level} :
    level.connect connective position = .ok next ↔
      level.awaitsOperator = true ∧ level.lastNot = none ∧
        { level with connective := some connective } = next := by
  cases terms : level.terms <;> cases lastNot : level.lastNot <;>
    cases present : level.connective <;> simp [connect, awaitsOperator, terms, lastNot, present]

theorem awaitsOperator_push (make : Lead → Term) (position : Nat) :
    (level.push make position).awaitsOperator = true := by
  simp [awaitsOperator, push]

end Level

namespace Arranger

/-- What each kind of token makes of the levels. -/
inductive Steps : Arranger → Token → Arranger → Prop
  | closing {level enclosing : Level} {opened : Nat} {outer : List (Level × Nat)} {terms : List Term}
      (token : TokenOf .closing) (closes : level.close = .ok terms) :
      Steps ⟨level, (enclosing, opened) :: outer⟩ token.val
        ⟨enclosing.push (.group · terms) opened, outer⟩
  | operator {level : Level} {outer : List (Level × Nat)} (operator : Operator)
      (awaits : level.awaitsOperator = true) (unnegated : level.lastNot = none) :
      Steps ⟨level, outer⟩ operator.token
        ⟨{ level with connective := some operator.connective }, outer⟩
  | not {level : Level} {outer : List (Level × Nat)} (token : TokenOf .not)
      (free : level.awaitsOperator = false) :
      Steps ⟨level, outer⟩ token.val
        ⟨level.negate token.val.text.length token.val.position, outer⟩
  | opening {level : Level} {outer : List (Level × Nat)} (token : TokenOf .opening)
      (free : level.awaitsOperator = false) :
      Steps ⟨level, outer⟩ token.val ⟨{}, (level, token.val.position) :: outer⟩
  | word {level : Level} {outer : List (Level × Nat)} (token : TokenOf .word)
      (free : level.awaitsOperator = false) :
      Steps ⟨level, outer⟩ token.val
        ⟨level.push (.word · token.val.text) token.val.position, outer⟩

theorem atOperand_eq_ok_iff {state next after : Arranger} {position : Nat} :
    state.atOperand position next = .ok after ↔
      state.level.awaitsOperator = false ∧ next = after := by
  cases awaits : state.level.awaitsOperator <;> simp [atOperand, awaits]

theorem atOperand_of_free {state : Arranger} (free : state.level.awaitsOperator = false)
    (position : Nat) (next : Arranger) : state.atOperand position next = .ok next := by
  rw [atOperand, free]
  rfl

theorem atOperand_of_awaits {state : Arranger} (awaits : state.level.awaitsOperator = true)
    (position : Nat) (next : Arranger) :
    state.atOperand position next = .error ⟨.missingOperator, some position⟩ := by
  rw [atOperand, awaits]
  rfl

theorem step_of_operator {state : Arranger} {token : Token} {connective : Connective}
    (kind : token.kind = connective.kind) :
    state.step token = (state.level.connect connective token.position).map
      fun level => { state with level } := by
  cases connective with
  | and =>
      simp only [step, show token.kind = .and from kind]
      rfl
  | or =>
      simp only [step, show token.kind = .or from kind]
      rfl

theorem step_of_not {token : Token} (kind : token.kind = .not) (state : Arranger) :
    state.step token = state.atOperand token.position
      { state with level := state.level.negate token.text.length token.position } := by
  simp only [step, kind]

theorem step_of_opening {token : Token} (kind : token.kind = .opening) (state : Arranger) :
    state.step token = state.atOperand token.position
      ⟨{}, (state.level, token.position) :: state.outer⟩ := by
  simp only [step, kind]

theorem step_of_word {token : Token} (kind : token.kind = .word) (state : Arranger) :
    state.step token = state.atOperand token.position
      { state with level := state.level.push (.word · token.text) token.position } := by
  simp only [step, kind]

theorem step_of_invalid {token : Token} (kind : token.kind = .invalid) (state : Arranger) :
    state.step token = .error ⟨.invalidCharacter, some token.position⟩ := by
  simp only [step, kind]

theorem step_of_unopened {token : Token} (kind : token.kind = .closing) (level : Level) :
    step ⟨level, []⟩ token = .error ⟨.unbalancedClosing, some token.position⟩ := by
  simp only [step, kind]

theorem step_of_closing {token : Token} (kind : token.kind = .closing) (level enclosing : Level)
    (opened : Nat) (outer : List (Level × Nat)) :
    step ⟨level, (enclosing, opened) :: outer⟩ token =
      level.close.map fun terms => ⟨enclosing.push (.group · terms) opened, outer⟩ := by
  simp only [step, kind]
  rfl

theorem step_of_operator_eq_ok_iff {state next : Arranger} {token : Token} {connective : Connective}
    (kind : token.kind = connective.kind) :
    state.step token = .ok next ↔ state.level.awaitsOperator = true ∧ state.level.lastNot = none ∧
      { state with level := { state.level with connective := some connective } } = next := by
  rw [step_of_operator kind, Outcome.map_eq_ok_iff]
  simp only [Level.connect_eq_ok_iff]
  constructor
  · rintro ⟨level, ⟨awaits, unnegated, rfl⟩, rfl⟩
    exact ⟨awaits, unnegated, rfl⟩
  · rintro ⟨awaits, unnegated, rfl⟩
    exact ⟨_, ⟨awaits, unnegated, rfl⟩, rfl⟩

theorem step_of_closing_eq_ok_iff {level : Level} {outer : List (Level × Nat)} {next : Arranger}
    {token : Token} (kind : token.kind = .closing) :
    step ⟨level, outer⟩ token = .ok next ↔ ∃ enclosing opened further terms,
      outer = (enclosing, opened) :: further ∧ level.close = .ok terms ∧
        ⟨enclosing.push (.group · terms) opened, further⟩ = next := by
  cases outer with
  | nil => simp [step, kind]
  | cons enclosing further =>
      rcases enclosing with ⟨enclosing, opened⟩
      simp only [step, kind, Outcome.bind_eq_ok_iff]
      simp [pure, Except.pure]

theorem step_eq_ok_iff {state next : Arranger} {token : Token} :
    state.step token = .ok next ↔ Steps state token next := by
  constructor
  · intro moved
    rcases state with ⟨level, outer⟩
    cases kind : token.kind with
    | and =>
        have kind : token.kind = Connective.and.kind := kind
        rcases (step_of_operator_eq_ok_iff kind).mp moved with ⟨awaits, unnegated, rfl⟩
        exact .operator ⟨.and, token, kind⟩ awaits unnegated
    | or =>
        have kind : token.kind = Connective.or.kind := kind
        rcases (step_of_operator_eq_ok_iff kind).mp moved with ⟨awaits, unnegated, rfl⟩
        exact .operator ⟨.or, token, kind⟩ awaits unnegated
    | not =>
        simp only [step, kind, atOperand_eq_ok_iff] at moved
        rcases moved with ⟨free, rfl⟩
        exact .not ⟨token, kind⟩ free
    | opening =>
        simp only [step, kind, atOperand_eq_ok_iff] at moved
        rcases moved with ⟨free, rfl⟩
        exact .opening ⟨token, kind⟩ free
    | closing =>
        rcases (step_of_closing_eq_ok_iff kind).mp moved with
          ⟨enclosing, opened, further, terms, rfl, closes, rfl⟩
        exact .closing ⟨token, kind⟩ closes
    | word =>
        simp only [step, kind, atOperand_eq_ok_iff] at moved
        rcases moved with ⟨free, rfl⟩
        exact .word ⟨token, kind⟩ free
    | invalid =>
        simp only [step, kind] at moved
        contradiction
  · intro steps
    cases steps with
    | closing token closes =>
        exact (step_of_closing_eq_ok_iff token.property).mpr ⟨_, _, _, _, rfl, closes, rfl⟩
    | operator operator awaits unnegated =>
        exact (step_of_operator_eq_ok_iff operator.kind_token).mpr ⟨awaits, unnegated, rfl⟩
    | not token free => simp [step, token.property, atOperand, free]
    | opening token free => simp [step, token.property, atOperand, free]
    | word token free => simp [step, token.property, atOperand, free]

def run (state : Arranger) (tokens : List Token) : Except Flaw (List Term) := do
  (← tokens.foldlM step state).finish

theorem run_cons_eq_ok_iff {state : Arranger} {token : Token} {rest : List Token} {terms : List Term} :
    run state (token :: rest) = .ok terms ↔
      ∃ next, Steps state token next ∧ run next rest = .ok terms := by
  simp only [run, List.foldlM_cons, bind_assoc, Outcome.bind_eq_ok_iff, step_eq_ok_iff]

theorem run_nil_eq_ok_iff {level : Level} {outer : List (Level × Nat)} {terms : List Term} :
    run ⟨level, outer⟩ [] = .ok terms ↔ level.close = .ok terms ∧ outer = [] := by
  cases outer with
  | nil => simp [run, finish, Outcome.bind_eq_ok_iff, pure, Except.pure]
  | cons enclosing outer => simp [run, finish, Outcome.bind_eq_ok_iff, pure, Except.pure]

theorem run_cons {state next : Arranger} {token : Token} (steps : Steps state token next)
    (rest : List Token) : run state (token :: rest) = run next rest := by
  simp only [run, List.foldlM_cons, step_eq_ok_iff.mpr steps]
  rfl

theorem odd_add (a b : Nat) : ((a + b) % 2 == 1) = ((a % 2 == 1) != (b % 2 == 1)) := by
  rcases Nat.mod_two_eq_zero_or_one a with first | first <;>
    rcases Nat.mod_two_eq_zero_or_one b with second | second <;>
    simp [Nat.add_mod, first, second]

theorem negates_cons (negation : TokenOf .not) (nots : List (TokenOf .not)) :
    negates (negation :: nots) = ((negation.val.text.length % 2 == 1) != negates nots) := by
  rw [negates, notTokens, List.map_cons, List.flatMap_cons, List.length_append, odd_add,
    String.length_toList]
  rfl

theorem run_notTokens {level : Level} {outer : List (Level × Nat)} (nots : List (TokenOf .not))
    (free : level.awaitsOperator = false) (rest : List Token) :
    ∃ lastNot, run ⟨level, outer⟩ (notTokens nots ++ rest) =
      run ⟨{ level with negated := level.negated != negates nots, lastNot }, outer⟩ rest := by
  induction nots generalizing level with
  | nil => exact ⟨level.lastNot, by simp [notTokens, negates]⟩
  | cons negation nots ih =>
      have stillFree : (level.negate negation.val.text.length
        negation.val.position).awaitsOperator = false := free
      rcases ih stillFree with ⟨lastNot, same⟩
      refine ⟨lastNot, ?_⟩
      rw [notTokens, List.map_cons, List.cons_append, run_cons (.not negation free), ← notTokens, same]
      simp only [Level.negate, negates_cons, Bool.bne_assoc]

mutual

theorem run_operand {level : Level} {outer : List (Level × Nat)} (operand : Operand)
    (free : level.awaitsOperator = false) (plain : level.negated = false) (rest : List Token) :
    run ⟨level, outer⟩ (operand.tokens ++ rest) =
      run ⟨{ terms := level.terms ++ [operand.term level.connective] }, outer⟩ rest := by
  cases operand with
  | word nots word =>
      rcases run_notTokens nots free (word.val :: rest) with ⟨lastNot, same⟩
      have stillFree : ({ level with negated := level.negated != negates nots, lastNot } :
        Level).awaitsOperator = false := free
      rw [Operand.tokens, List.append_assoc, List.singleton_append, same,
        run_cons (.word word stillFree), Level.push, plain, Bool.false_bne]
      rfl
  | group nots opening inner closing =>
      rcases run_notTokens nots free (opening.val :: (inner.tokens ++ (closing.val :: rest))) with
        ⟨lastNot, same⟩
      have stillFree : ({ level with negated := level.negated != negates nots, lastNot } :
        Level).awaitsOperator = false := free
      rw [Operand.tokens, List.append_assoc, List.cons_append, List.append_assoc,
        List.singleton_append, same, run_cons (.opening opening stillFree), run_expression inner,
        run_cons (.closing closing rfl), Level.push, plain, Bool.false_bne]
      rfl

theorem run_tail {outer : List (Level × Nat)} (tail : Tail) {terms : List Term}
    (nonempty : terms ≠ []) (rest : List Token) :
    run ⟨{ terms }, outer⟩ (tail.tokens ++ rest) =
      run ⟨{ terms := terms ++ tail.terms }, outer⟩ rest := by
  cases tail with
  | nil => rw [Tail.tokens, Tail.terms, List.nil_append, List.append_nil]
  | cons operator operand tail =>
      have awaits : ({ terms } : Level).awaitsOperator = true := by
        simpa [Level.awaitsOperator] using nonempty
      rw [Tail.tokens, Tail.terms, List.cons_append, List.append_assoc,
        run_cons (.operator operator awaits rfl), run_operand operand (by simp [Level.awaitsOperator])
          rfl, run_tail tail (by simp), List.append_assoc, List.singleton_append]

theorem run_expression {outer : List (Level × Nat)} (expression : Expression) (rest : List Token) :
    run ⟨{}, outer⟩ (expression.tokens ++ rest) =
      run ⟨{ terms := expression.terms }, outer⟩ rest := by
  cases expression with
  | empty => rw [Expression.tokens, Expression.terms, List.nil_append]
  | operands first tail =>
      rw [Expression.tokens, Expression.terms, List.append_assoc, run_operand first rfl rfl,
        run_tail tail (by simp), List.nil_append, List.singleton_append]

end

end Arranger

theorem arrange_tokens (expression : Expression) :
    arrange expression.tokens = .ok expression.terms := by
  have read : Arranger.run {} (expression.tokens ++ []) = .ok expression.terms :=
    Arranger.run_expression expression []
  rwa [List.append_nil] at read

namespace Arranger

inductive Continues (level : Level) : List Token → Prop
  | nothing {terms : List Term} (closes : level.close = .ok terms) : Continues level []
  | operators (awaits : level.awaitsOperator = true) (tail : Tail) : Continues level tail.tokens
  | operands (free : level.awaitsOperator = false) (operand : Operand) (tail : Tail) :
      Continues level (operand.tokens ++ tail.tokens)

inductive Closes : Nat → List Token → Prop
  | nothing : Closes 0 []
  | level {depth : Nat} {rest : List Token} (closing : TokenOf .closing) (tail : Tail)
      (closes : Closes depth rest) : Closes (depth + 1) (closing.val :: (tail.tokens ++ rest))

theorem Continues.exists_tail {level : Level} {tokens : List Token}
    (continues : Continues level tokens) (awaits : level.awaitsOperator = true) :
    ∃ tail : Tail, tail.tokens = tokens := by
  cases continues with
  | nothing => exact ⟨.nil, rfl⟩
  | operators _ tail => exact ⟨tail, rfl⟩
  | operands free => simp [awaits] at free

theorem Continues.exists_operand {level : Level} {tokens : List Token}
    (continues : Continues level tokens) (free : level.awaitsOperator = false)
    (unfinished : level.connective ≠ none ∨ level.lastNot ≠ none) :
    ∃ (operand : Operand) (tail : Tail), operand.tokens ++ tail.tokens = tokens := by
  cases continues with
  | nothing closes =>
      rcases Level.close_eq_ok_iff.mp closes with ⟨unconnected, unnegated, _⟩
      simp [unconnected, unnegated] at unfinished
  | operators awaits => simp [free] at awaits
  | operands _ operand tail => exact ⟨operand, tail, rfl⟩

theorem Continues.exists_expression {tokens : List Token} (continues : Continues {} tokens) :
    ∃ expression : Expression, expression.tokens = tokens := by
  cases continues with
  | nothing => exact ⟨.empty, rfl⟩
  | operators awaits => contradiction
  | operands _ operand tail => exact ⟨.operands operand tail, rfl⟩

theorem Continues.of_operand {level : Level} (free : level.awaitsOperator = false) {tokens : List Token}
    (operand : Operand) (tail : Tail) (same : operand.tokens ++ tail.tokens = tokens) :
    Continues level tokens := by
  subst same
  exact .operands free operand tail

def negated (negation : TokenOf .not) : Operand → Operand
  | .word nots word => .word (negation :: nots) word
  | .group nots opening inner closing => .group (negation :: nots) opening inner closing

theorem tokens_negated (negation : TokenOf .not) (operand : Operand) :
    (negated negation operand).tokens = negation.val :: operand.tokens := by
  cases operand with
  | word => rfl
  | group => rfl

theorem exists_continues_of_run_eq_ok {state : Arranger} {tokens : List Token} {terms : List Term}
    (accepted : run state tokens = .ok terms) :
    ∃ inner rest, tokens = inner ++ rest ∧ Continues state.level inner ∧
      Closes state.outer.length rest := by
  induction tokens generalizing state with
  | nil =>
      rcases state with ⟨level, outer⟩
      rcases run_nil_eq_ok_iff.mp accepted with ⟨closes, rfl⟩
      exact ⟨[], [], rfl, .nothing closes, .nothing⟩
  | cons token tokens ih =>
      rcases run_cons_eq_ok_iff.mp accepted with ⟨next, steps, later⟩
      rcases ih later with ⟨inner, rest, rfl, continues, closed⟩
      cases steps with
      | closing closing closes =>
          rcases continues.exists_tail (Level.awaitsOperator_push _ _) with ⟨tail, rfl⟩
          exact ⟨[], _, rfl, .nothing closes, .level closing tail closed⟩
      | operator operator awaits unnegated =>
          rcases continues.exists_operand (by simp [Level.awaitsOperator]) (.inl (by simp)) with
            ⟨operand, tail, rfl⟩
          exact ⟨operator.token :: (operand.tokens ++ tail.tokens), rest, rfl,
            .operators awaits (.cons operator operand tail), closed⟩
      | not negation free =>
          rcases continues.exists_operand free (.inr (by simp [Level.negate])) with
            ⟨operand, tail, rfl⟩
          have same : (negated negation operand).tokens ++ tail.tokens =
              negation.val :: (operand.tokens ++ tail.tokens) := by
            rw [tokens_negated, List.cons_append]
          exact ⟨_, rest, rfl, .of_operand free (negated negation operand) tail same, closed⟩
      | opening opening free =>
          rcases continues.exists_expression with ⟨inner, rfl⟩
          cases closed with
          | level closing tail closed =>
              refine ⟨opening.val :: (inner.tokens ++ closing.val :: tail.tokens), _, by simp,
                .of_operand free (.group [] opening inner closing) tail ?_, closed⟩
              simp [Operand.tokens, notTokens]
      | word word free =>
          rcases continues.exists_tail (Level.awaitsOperator_push _ _) with ⟨tail, rfl⟩
          exact ⟨_, rest, rfl, .of_operand free (.word [] word) tail rfl, closed⟩

end Arranger

theorem exists_tokens_eq_of_arrange_eq_ok {tokens : List Token} {terms : List Term}
    (accepted : arrange tokens = .ok terms) :
    ∃ expression : Expression, expression.tokens = tokens := by
  have accepted : Arranger.run {} tokens = .ok terms := accepted
  rcases Arranger.exists_continues_of_run_eq_ok accepted with ⟨inner, rest, rfl, continues, closed⟩
  cases closed with
  | nothing =>
      rw [List.append_nil]
      exact continues.exists_expression

theorem arrange_eq_ok_iff {tokens : List Token} {terms : List Term} :
    arrange tokens = .ok terms ↔
      ∃ expression : Expression, expression.tokens = tokens ∧ expression.terms = terms := by
  constructor
  · intro accepted
    rcases exists_tokens_eq_of_arrange_eq_ok accepted with ⟨expression, rfl⟩
    rw [arrange_tokens, Except.ok.injEq] at accepted
    exact ⟨expression, rfl, accepted⟩
  · rintro ⟨expression, rfl, rfl⟩
    exact arrange_tokens expression

theorem splitTerms_eq_ok_iff {text : String} {terms : List Term} :
    splitTerms text = .ok terms ↔
      ∃ expression : Expression, expression.tokens = tokenize text ∧ expression.terms = terms := by
  rw [splitTerms, Outcome.mapError_eq_ok_iff, arrange_eq_ok_iff]

/-- A text is accepted iff its tokens can be derived. There is one derivation then, which the terms are
read off, and the negations in it consist of exclamation marks. -/
theorem splitTerms_reads_derivation (text : String) :
    ((∃ terms, splitTerms text = .ok terms) ↔
        ∃ expression : Expression, expression.tokens = tokenize text) ∧
      (∀ terms, splitTerms text = .ok terms →
        ∃ expression : Expression, expression.tokens = tokenize text ∧ expression.terms = terms ∧
          ∀ other : Expression, other.tokens = tokenize text → other = expression) ∧
      ∀ token ∈ tokenize text, token.kind = .not → ∀ c ∈ token.text.toList, c = '!' := by
  refine ⟨⟨?_, ?_⟩, ?_, ?_⟩
  · rintro ⟨terms, accepted⟩
    rcases splitTerms_eq_ok_iff.mp accepted with ⟨expression, derives, _⟩
    exact ⟨expression, derives⟩
  · rintro ⟨expression, derives⟩
    exact ⟨expression.terms, splitTerms_eq_ok_iff.mpr ⟨expression, derives, rfl⟩⟩
  · intro terms accepted
    rcases splitTerms_eq_ok_iff.mp accepted with ⟨expression, derives, same⟩
    refine ⟨expression, derives, same, ?_⟩
    intro other derivesToo
    exact Expression.tokens_injective (derivesToo.trans derives.symm)
  · intro token member isNot c inside
    apply TokenKind.eq_of_ofChar?_eq_not
    rw [Token.ofChar?_of_mem_tokenize member c inside, isNot]

theorem splitTerms_reads_derivation_of_example :
    let text := "!(a & ! !!b) | c"
    let inner : Expression := .operands (.word [] ⟨⟨.word, "a", 2⟩, rfl⟩)
      (.cons ⟨.and, ⟨.and, "&", 4⟩, rfl⟩
        (.word [⟨⟨.not, "!", 6⟩, rfl⟩, ⟨⟨.not, "!!", 8⟩, rfl⟩] ⟨⟨.word, "b", 10⟩, rfl⟩) .nil)
    let outer : Expression := .operands
      (.group [⟨⟨.not, "!", 0⟩, rfl⟩] ⟨⟨.opening, "(", 1⟩, rfl⟩ inner ⟨⟨.closing, ")", 11⟩, rfl⟩)
      (.cons ⟨.or, ⟨.or, "|", 13⟩, rfl⟩ (.word [] ⟨⟨.word, "c", 15⟩, rfl⟩) .nil)
    outer.tokens = tokenize text ∧
      ∃ terms, splitTerms text = .ok terms ∧
        (∃ expression : Expression, expression.tokens = tokenize text ∧ expression.terms = terms ∧
          ∀ other : Expression, other.tokens = tokenize text → other = expression) ∧
        ∀ c ∈ "!!".toList, c = '!' := by
  intro text inner outer
  have derives : outer.tokens = tokenize text := by decide +kernel
  have negation : (⟨.not, "!!", 8⟩ : Token) ∈ tokenize text := by
    rw [← derives]
    decide
  rcases splitTerms_reads_derivation text with ⟨accepts, reads, marks⟩
  rcases accepts.mpr ⟨outer, derives⟩ with ⟨terms, accepted⟩
  exact ⟨derives, terms, accepted, reads terms accepted, marks _ negation rfl⟩

end Variants
