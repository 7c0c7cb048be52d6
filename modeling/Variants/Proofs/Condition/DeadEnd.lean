import Variants.Proofs.Condition.Arranging

/-!
Where a text goes wrong. The arranger refuses a token iff no accepted text begins with the tokens up to it:
whatever it has read so far could be completed by an operand, where one is due, and by the closing
parentheses that are missing. So what is reported of a refused text is settled at the first token of no
return, or at the end of a text that is only unfinished.
-/

namespace Variants

/-- Tokens with which some accepted text begins. -/
def Viable (tokens : List Token) : Prop :=
  ∃ text terms, splitTerms text = .ok terms ∧ tokens <+: tokenize text

/-- The first token after which there is no way on, or else the end of the tokens. -/
structure DeadEnd (tokens : List Token) (k : Nat) : Prop where
  inside : k ≤ tokens.length
  viable : ∀ j ≤ k, Viable (tokens.take j)
  stuck : k < tokens.length → ¬ Viable (tokens.take (k + 1))

namespace Token

def nest (opened : List Nat) (token : Token) : List Nat :=
  match token.kind with
  | .opening => token.position :: opened
  | .closing => opened.tail
  | .and | .or | .not | .word | .invalid => opened

/-- What is reported where an operand has to follow a token and does not: the place of a negation, and no
place for an operator. -/
def lacking? (token : Token) : Option (Option Nat) :=
  match token.kind with
  | .not => some (some token.position)
  | .and | .or => some none
  | .opening | .closing | .word | .invalid => none

end Token

/-- The places of the parentheses that tokens leave open, the innermost first. -/
def openings (tokens : List Token) : List Nat :=
  tokens.foldl Token.nest []

/-- What is reported if tokens stop where an operand has to follow. -/
def unfinished? (tokens : List Token) : Option (Option Nat) :=
  tokens.getLast?.bind Token.lacking?

theorem openings_concat (tokens : List Token) (token : Token) :
    openings (tokens ++ [token]) = Token.nest (openings tokens) token := by
  rw [openings, List.foldl_append]
  rfl

theorem unfinished?_concat (tokens : List Token) (token : Token) :
    unfinished? (tokens ++ [token]) = token.lacking? := by
  rw [unfinished?, List.getLast?_concat, Option.bind_some]

namespace Arranger

structure Follows (state : Arranger) (tokens : List Token) : Prop where
  opened : state.outer.map Prod.snd = openings tokens
  unfinished : ∀ place, unfinished? tokens = some place →
    (∃ fault, state.level.close = .error ⟨fault, place⟩) ∧ state.level.awaitsOperator = false
  finished : unfinished? tokens = none → ∃ terms, state.level.close = .ok terms

theorem follows_nil : Follows {} [] where
  opened := rfl
  unfinished place absurd := by contradiction
  finished _ := ⟨[], rfl⟩

theorem Steps.map_outer {state next : Arranger} {token : Token} (steps : Steps state token next) :
    next.outer.map Prod.snd = Token.nest (state.outer.map Prod.snd) token := by
  cases steps with
  | closing closing _ => simp [Token.nest, closing.property]
  | operator operator =>
      cases kind : operator.connective <;>
        simp [Token.nest, operator.kind_token, kind, Connective.kind]
  | not negation => simp [Token.nest, negation.property]
  | opening opening => simp [Token.nest, opening.property]
  | word word => simp [Token.nest, word.property]

theorem Steps.of_lacking {state next : Arranger} {token : Token} (steps : Steps state token next)
    {place : Option Nat} (lacking : token.lacking? = some place) :
    (∃ fault, next.level.close = .error ⟨fault, place⟩) ∧ next.level.awaitsOperator = false := by
  cases steps with
  | closing closing _ => simp [Token.lacking?, closing.property] at lacking
  | @operator level outer operator awaits unnegated =>
      have nowhere : operator.token.lacking? = some none := by
        rw [Token.lacking?, operator.kind_token]
        cases operator.connective <;> rfl
      obtain rfl : none = place := Option.some.inj (nowhere.symm.trans lacking)
      exact ⟨⟨.trailingOperator, by simp [Level.close, unnegated]⟩, by simp [Level.awaitsOperator]⟩
  | not negation free =>
      obtain rfl : some negation.val.position = place := by
        simpa [Token.lacking?, negation.property] using lacking
      exact ⟨⟨.danglingNot, rfl⟩, free⟩
  | opening opening _ => simp [Token.lacking?, opening.property] at lacking
  | word word _ => simp [Token.lacking?, word.property] at lacking

theorem Steps.of_complete {state next : Arranger} {token : Token} (steps : Steps state token next)
    (complete : token.lacking? = none) : ∃ terms, next.level.close = .ok terms := by
  cases steps with
  | closing closing _ => exact ⟨_, rfl⟩
  | operator operator =>
      cases kind : operator.connective <;>
        simp [Token.lacking?, operator.kind_token, kind, Connective.kind] at complete
  | not negation _ => simp [Token.lacking?, negation.property] at complete
  | opening opening _ => exact ⟨[], rfl⟩
  | word word _ => exact ⟨_, rfl⟩

theorem Follows.concat {state next : Arranger} {tokens : List Token} {token : Token}
    (follows : Follows state tokens) (steps : Steps state token next) :
    Follows next (tokens ++ [token]) where
  opened := by rw [steps.map_outer, follows.opened, openings_concat]
  unfinished place lacking := by
    rw [unfinished?_concat] at lacking
    exact steps.of_lacking lacking
  finished complete := by
    rw [unfinished?_concat] at complete
    exact steps.of_complete complete

theorem follows_of_reads {tokens : List Token} {state : Arranger}
    (reads : tokens.foldlM step {} = .ok state) : Follows state tokens := by
  induction tokens using List.reverseRecOn generalizing state with
  | nil =>
      obtain rfl : ({} : Arranger) = state := Except.ok.inj reads
      exact follows_nil
  | append_singleton before token ih =>
      rw [List.foldlM_append] at reads
      rcases Outcome.bind_eq_ok_iff.mp reads with ⟨middle, earlier, last⟩
      rw [List.foldlM_cons] at last
      rcases Outcome.bind_eq_ok_iff.mp last with ⟨next, moved, same⟩
      obtain rfl : next = state := Except.ok.inj same
      exact (ih earlier).concat (step_eq_ok_iff.mp moved)

theorem position_of_step_eq_error {state : Arranger} {token : Token} {flaw : Flaw}
    (refused : state.step token = .error flaw)
    (closesNone : ¬ (token.kind = .closing ∧ state.outer ≠ [])) :
    flaw.position = some token.position := by
  have atOperand {next : Arranger} (refused : state.atOperand token.position next = .error flaw) :
      flaw.position = some token.position := by
    cases awaits : state.level.awaitsOperator with
    | true =>
        rw [atOperand_of_awaits awaits] at refused
        rw [← Except.error.inj refused]
    | false =>
        rw [atOperand_of_free awaits] at refused
        contradiction
  have connect {connective : Connective} (kind : token.kind = connective.kind) :
      flaw.position = some token.position := by
    rw [step_of_operator kind, Outcome.map_eq_error_iff, Level.connect] at refused
    split at refused
    · rw [← Except.error.inj refused]
    · split at refused
      · rw [← Except.error.inj refused]
      · contradiction
  cases kind : token.kind with
  | closing =>
      rcases state with ⟨level, outer⟩
      obtain rfl : outer = [] := by simpa [kind] using closesNone
      rw [step_of_unopened kind] at refused
      rw [← Except.error.inj refused]
  | and => exact @connect .and kind
  | or => exact @connect .or kind
  | not =>
      rw [step_of_not kind] at refused
      exact atOperand refused
  | opening =>
      rw [step_of_opening kind] at refused
      exact atOperand refused
  | word =>
      rw [step_of_word kind] at refused
      exact atOperand refused
  | invalid =>
      rw [step_of_invalid kind] at refused
      rw [← Except.error.inj refused]

theorem close_eq_error_of_step {state : Arranger} {token : Token} {flaw : Flaw}
    (refused : state.step token = .error flaw) (closes : token.kind = .closing ∧ state.outer ≠ []) :
    state.level.close = .error flaw := by
  rcases state with ⟨level, _ | ⟨⟨enclosing, opened⟩, outer⟩⟩
  · exact absurd rfl closes.2
  · rwa [step_of_closing closes.1, Outcome.map_eq_error_iff] at refused

namespace Follows

variable {state : Arranger} {tokens : List Token} {flaw : Flaw}

theorem unfinished?_of_close (follows : Follows state tokens) (refused : state.level.close = .error flaw) :
    unfinished? tokens = some flaw.position := by
  cases unfinished : unfinished? tokens with
  | none =>
      rcases follows.finished unfinished with ⟨terms, closes⟩
      rw [closes] at refused
      contradiction
  | some place =>
      rcases (follows.unfinished place unfinished).1 with ⟨fault, fails⟩
      rw [← Except.error.inj (fails.symm.trans refused)]

theorem unfinished?_of_closes (follows : Follows state tokens) {terms : List Term}
    (closes : state.level.close = .ok terms) : unfinished? tokens = none := by
  rw [Option.eq_none_iff_forall_ne_some]
  intro place unfinished
  rcases (follows.unfinished place unfinished).1 with ⟨fault, fails⟩
  rw [closes] at fails
  contradiction

theorem of_step_eq_error (follows : Follows state tokens) {token : Token}
    (refused : state.step token = .error flaw) :
    (token.kind = .closing ∧ openings tokens ≠ [] → unfinished? tokens = some flaw.position) ∧
      (¬ (token.kind = .closing ∧ openings tokens ≠ []) → flaw.position = some token.position) := by
  have isOpen : openings tokens ≠ [] ↔ state.outer ≠ [] := by
    rw [← follows.opened, ne_eq, List.map_eq_nil_iff]
  rw [isOpen]
  constructor
  · intro closes
    exact follows.unfinished?_of_close (close_eq_error_of_step refused closes)
  · exact position_of_step_eq_error refused

theorem of_finish_eq_error (follows : Follows state tokens) (refused : state.finish = .error flaw) :
    unfinished? tokens = some flaw.position ∨
      unfinished? tokens = none ∧ ∃ opened further,
        openings tokens = opened :: further ∧ flaw.position = some opened := by
  rcases Outcome.bind_eq_error_iff.mp refused with lacks | ⟨terms, closes, unclosed⟩
  · exact .inl (follows.unfinished?_of_close lacks)
  · refine .inr ⟨follows.unfinished?_of_closes closes, ?_⟩
    rw [← follows.opened]
    rcases outer : state.outer with _ | ⟨⟨level, opened⟩, further⟩
    · simp [outer, pure, Except.pure] at unclosed
    · simp only [outer, Except.error.injEq] at unclosed
      exact ⟨opened, further.map Prod.snd, rfl, by rw [← unclosed]⟩

end Follows

theorem run_append {state next : Arranger} {before : List Token} (reads : before.foldlM step state = .ok next)
    (after : List Token) : run state (before ++ after) = run next after := by
  rw [run, List.foldlM_append, reads]
  rfl

theorem exists_run_closings {level : Level} {terms : List Term} (closes : level.close = .ok terms)
    (outer : List (Level × Nat)) (position : Nat) :
    ∃ all, run ⟨level, outer⟩ (Token.scan position (List.replicate outer.length ')')) = .ok all := by
  induction outer generalizing level terms position with
  | nil => exact ⟨terms, run_nil_eq_ok_iff.mpr ⟨closes, rfl⟩⟩
  | cons enclosing outer ih =>
      rcases enclosing with ⟨enclosing, opened⟩
      have scanned := @Token.scan_char ')' .closing rfl (List.replicate outer.length ')')
        (fun absurd => by contradiction) position
      rw [List.length_cons, List.replicate_succ, scanned,
        run_cons (.closing ⟨⟨.closing, String.ofList [')'], position⟩, rfl⟩ closes)]
      exact ih rfl (position + 1)

theorem Follows.exists_run {state : Arranger} {tokens : List Token} (follows : Follows state tokens)
    (position : Nat) :
    ∃ rest terms, run state (Token.scan position (' ' :: rest)) = .ok terms := by
  rcases state with ⟨level, outer⟩
  cases unfinished : unfinished? tokens with
  | none =>
      rcases follows.finished unfinished with ⟨terms, closes⟩
      refine ⟨List.replicate outer.length ')', ?_⟩
      rw [Token.scan_blank (by decide)]
      exact exists_run_closings closes outer (position + 1)
  | some place =>
      have free := (follows.unfinished place unfinished).2
      let operand : TokenOf .word := ⟨⟨.word, String.ofList ['x'], position + 1⟩, rfl⟩
      let closings := List.replicate outer.length ')'
      have scanned : Token.scan (position + 1) ('x' :: ' ' :: closings) =
          operand.val :: Token.scan (position + 1 + 1) (' ' :: closings) :=
        Token.scan_char rfl (Lexeme.endsAt_of_blank (by decide) _ _) (position + 1)
      refine ⟨'x' :: ' ' :: closings, ?_⟩
      rw [Token.scan_blank (by decide), scanned, run_cons (.word operand free),
        Token.scan_blank (by decide)]
      exact exists_run_closings rfl outer (position + 3)

end Arranger

theorem viable_of_reads {text : String} {before after : List Token} {state : Arranger}
    (split : tokenize text = before ++ after) (reads : before.foldlM Arranger.step {} = .ok state) :
    Viable before := by
  rcases (scans_tokenize text).exists_front split with ⟨front, _, cut⟩
  rcases (Arranger.follows_of_reads reads).exists_run (0 + front.length) with ⟨rest, terms, completed⟩
  have tokens : tokenize (String.ofList (front ++ ' ' :: rest)) =
      before ++ Token.scan (0 + front.length) (' ' :: rest) := by
    rw [tokenize_eq_scan, String.toList_ofList, cut rest]
  refine ⟨String.ofList (front ++ ' ' :: rest), terms, ?_, ?_⟩
  · apply Outcome.mapError_eq_ok_iff.mpr
    rw [tokens, ← completed]
    exact Arranger.run_append reads _
  · rw [tokens]
    exact List.prefix_append _ _

theorem Viable.take {tokens : List Token} (viable : Viable tokens) (j : Nat) : Viable (tokens.take j) := by
  rcases viable with ⟨text, terms, split, begins⟩
  exact ⟨text, terms, split, (List.take_prefix j tokens).trans begins⟩

theorem arrange_eq_error_of_step {before : List Token} {token : Token} {state : Arranger} {flaw : Flaw}
    (reads : before.foldlM Arranger.step {} = .ok state) (refused : state.step token = .error flaw)
    (after : List Token) : arrange (before ++ token :: after) = .error flaw := by
  rw [arrange, List.foldlM_append, reads]
  show ((token :: after).foldlM Arranger.step state >>= Arranger.finish) = .error flaw
  rw [List.foldlM_cons, refused]
  rfl

theorem splitTerms_eq_error_of_step {before : List Token} {token : Token} {state : Arranger} {flaw : Flaw}
    (reads : before.foldlM Arranger.step {} = .ok state) (refused : state.step token = .error flaw)
    {text : String} (begins : before ++ [token] <+: tokenize text) :
    splitTerms text = .error (.malformed flaw text) := by
  rcases begins with ⟨after, same⟩
  rw [List.append_assoc, List.singleton_append] at same
  rw [splitTerms, ← same, arrange_eq_error_of_step reads refused]
  rfl

theorem deadEnd_of_step {text : String} {before after : List Token} {token : Token} {state : Arranger}
    {flaw : Flaw} (split : tokenize text = before ++ token :: after)
    (reads : before.foldlM Arranger.step {} = .ok state) (refused : state.step token = .error flaw) :
    DeadEnd (tokenize text) before.length where
  inside := by simp [split]
  viable j early := by
    rw [split, List.take_append_of_le_length early]
    exact (viable_of_reads split reads).take j
  stuck _ := by
    rintro ⟨other, terms, accepted, begins⟩
    rw [split, List.take_length_add_append, List.take_succ_cons, List.take_zero] at begins
    rw [splitTerms_eq_error_of_step reads refused begins] at accepted
    contradiction

theorem deadEnd_of_reads {text : String} {state : Arranger}
    (reads : (tokenize text).foldlM Arranger.step {} = .ok state) :
    DeadEnd (tokenize text) (tokenize text).length where
  inside := Nat.le_refl _
  viable j _ := (viable_of_reads (List.append_nil _).symm reads).take j
  stuck absurd := (Nat.lt_irrefl _ absurd).elim

/-- What is reported of a text that is refused. A token after which there is no way on is reported at its
own place; but where it closes a group right after a negation or an operator, the place is that of the
negation, or none for the operator. No token after it plays a part. If the text is only unfinished, it is
reported for the negation or the operator with which it ends, and else at its innermost open
parenthesis. -/
theorem splitTerms_refuses_at_dead_end {text : String} {cause : Error}
    (refused : splitTerms text = .error cause) :
    ∃ flaw k, cause = .malformed flaw text ∧ DeadEnd (tokenize text) k ∧
      (∀ token, (tokenize text)[k]? = some token →
        (token.kind = .closing ∧ openings ((tokenize text).take k) ≠ [] →
          unfinished? ((tokenize text).take k) = some flaw.position) ∧
        (¬ (token.kind = .closing ∧ openings ((tokenize text).take k) ≠ []) →
          flaw.position = some token.position) ∧
        ∀ other, (tokenize text).take (k + 1) <+: tokenize other →
          splitTerms other = .error (.malformed flaw other)) ∧
      ((tokenize text)[k]? = none →
        unfinished? (tokenize text) = some flaw.position ∨
          unfinished? (tokenize text) = none ∧ ∃ opened further,
            openings (tokenize text) = opened :: further ∧ flaw.position = some opened) := by
  rcases Outcome.mapError_eq_error_iff.mp refused with ⟨flaw, arranged, rfl⟩
  rcases Outcome.bind_eq_error_iff.mp arranged with stops | ⟨state, reads, ends⟩
  · rcases Outcome.exists_of_foldlM_eq_error stops with
      ⟨before, token, after, state, split, reads, stuck⟩
    have present : (tokenize text)[before.length]? = some token := by simp [split]
    have upTo : (tokenize text).take before.length = before := by simp [split]
    have through : (tokenize text).take (before.length + 1) = before ++ [token] := by
      rw [split, List.take_length_add_append, List.take_succ_cons, List.take_zero]
    refine ⟨flaw, before.length, rfl, deadEnd_of_step split reads stuck, ?_, ?_⟩
    · intro other same
      obtain rfl : token = other := Option.some.inj (present.symm.trans same)
      rw [upTo, through]
      rcases (Arranger.follows_of_reads reads).of_step_eq_error stuck with ⟨closing, elsewhere⟩
      exact ⟨closing, elsewhere, fun other begins => splitTerms_eq_error_of_step reads stuck begins⟩
    · intro absurd
      rw [present] at absurd
      contradiction
  · refine ⟨flaw, (tokenize text).length, rfl, deadEnd_of_reads reads, ?_, ?_⟩
    · intro token absurd
      simp at absurd
    · intro _
      exact (Arranger.follows_of_reads reads).of_finish_eq_error ends

theorem splitTerms_refuses_at_dead_end_of_example :
    let text := "x86 & (Debug |) & x64"
    let flaw : Flaw := ⟨.trailingOperator, none⟩
    splitTerms text = .error (.malformed flaw text) ∧ DeadEnd (tokenize text) 5 ∧
      (tokenize text)[5]? = some ⟨.closing, ")", 14⟩ ∧
      unfinished? ((tokenize text).take 5) = some flaw.position ∧
      ∀ other, (tokenize text).take 6 <+: tokenize other →
        splitTerms other = .error (.malformed flaw other) := by
  intro text flaw
  have cut : tokenize text = [⟨.word, "x86", 0⟩, ⟨.and, "&", 4⟩, ⟨.opening, "(", 6⟩, ⟨.word, "Debug", 7⟩,
      ⟨.or, "|", 13⟩, ⟨.closing, ")", 14⟩, ⟨.and, "&", 16⟩, ⟨.word, "x64", 18⟩] := by decide +kernel
  have refused : splitTerms text = .error (.malformed flaw text) := by
    rw [splitTerms, cut]
    rfl
  rcases splitTerms_refuses_at_dead_end refused with ⟨found, k, same, deadEnd, located, ended⟩
  obtain rfl : flaw = found := (Error.malformed.inj same).1
  cases present : (tokenize text)[k]? with
  | none =>
      rcases ended present with unfinished | ⟨_, opened, _, _, place⟩
      · rw [cut] at unfinished
        contradiction
      · contradiction
  | some token =>
      rcases located token present with ⟨closing, elsewhere, settled⟩
      by_cases closes : token.kind = .closing ∧ openings ((tokenize text).take k) ≠ []
      · have only : ∀ i < (tokenize text).length,
            (tokenize text)[i]?.map Token.kind = some .closing → i = 5 := by
          rw [cut]
          decide
        have isClosing : (tokenize text)[k]?.map Token.kind = some .closing := by
          rw [present, Option.map_some, closes.1]
        obtain rfl : k = 5 := only k (List.getElem?_eq_some_iff.mp present).1 isClosing
        exact ⟨refused, deadEnd, by rw [cut]; rfl, closing closes, settled⟩
      · have place := elsewhere closes
        contradiction

end Variants
