import Variants.Proofs.Condition.Arranging
import Variants.Proofs.Template.Rendering

/-!
Terms without their places. The arranger keeps places only to report them, and of a negation it heeds only
whether it is odd, so tokens that say the same are arranged into terms that differ in their places alone.
Such terms state the same condition and are rendered alike.
-/

namespace Variants

def Lead.unplaced (lead : Lead) : Lead := { lead with position := 0 }

mutual

def Term.unplaced : Term → Term
  | .word lead text => .word lead.unplaced text
  | .group lead terms => .group lead.unplaced (levelUnplaced terms)

def levelUnplaced : List Term → List Term
  | [] => []
  | term :: rest => term.unplaced :: levelUnplaced rest

end

theorem levelUnplaced_append (terms others : List Term) :
    levelUnplaced (terms ++ others) = levelUnplaced terms ++ levelUnplaced others := by
  induction terms with
  | nil => rfl
  | cons term rest ih => rw [List.cons_append, levelUnplaced, levelUnplaced, ih, List.cons_append]

@[simp]
theorem isEmpty_levelUnplaced (terms : List Term) :
    (levelUnplaced terms).isEmpty = terms.isEmpty := by
  cases terms with
  | nil => rfl
  | cons term rest => rfl

theorem Term.lead_unplaced (term : Term) : term.unplaced.lead = term.lead.unplaced := by
  cases term with
  | word lead text => rfl
  | group lead terms => rfl

namespace Condition

mutual

theorem ofTerm_unplaced (registry : Registry) (term : Term) :
    ofTerm registry term.unplaced = ofTerm registry term := by
  cases term with
  | word lead text => rfl
  | group lead terms =>
      rw [Term.unplaced, ofTerm, ofTerm, ofTerms_unplaced registry none terms]
      rfl

theorem ofTerms_unplaced (registry : Registry) (before : Option Condition) (terms : List Term) :
    ofTerms registry before (levelUnplaced terms) = ofTerms registry before terms := by
  cases terms with
  | nil => rfl
  | cons term rest =>
      rw [levelUnplaced, ofTerms, ofTerms, ofTerm_unplaced registry term, term.lead_unplaced]
      apply bind_congr
      intro condition
      exact ofTerms_unplaced registry _ rest

end

end Condition

section

variable {Custom : Type} [AtomWriter Custom]

mutual

theorem renderTerm_unplaced (registry : Registry) (template : Template Custom) (scope : String)
    (term : Term) :
    renderTerm registry template scope term.unplaced = renderTerm registry template scope term := by
  cases term with
  | word lead text => rfl
  | group lead terms =>
      rw [Term.unplaced, renderTerm, renderTerm, isEmpty_levelUnplaced,
        renderTerms_unplaced registry template scope true terms]

theorem renderTerms_unplaced (registry : Registry) (template : Template Custom) (scope : String)
    (first : Bool) (terms : List Term) :
    renderTerms registry template scope first (levelUnplaced terms) =
      renderTerms registry template scope first terms := by
  cases terms with
  | nil => rfl
  | cons term rest =>
      rw [levelUnplaced, renderTerms, renderTerms, renderTerm_unplaced registry template scope term,
        renderTerms_unplaced registry template scope false rest, term.lead_unplaced]
      rfl

end

end

/-- What the arranger heeds of a token. -/
def Token.meaning (token : Token) : Token where
  kind := token.kind
  text :=
    match token.kind with
    | .word => token.text
    | .not => if token.text.length % 2 = 1 then "!" else "!!"
    | .and | .or | .opening | .closing | .invalid => ""
  position := 0

theorem Token.parity_meaning {token : Token} (kind : token.kind = .not) :
    token.text.length % 2 = token.meaning.text.length % 2 := by
  rcases Nat.mod_two_eq_zero_or_one token.text.length with even | odd
  · simp only [meaning, kind, even]
    rfl
  · simp only [meaning, kind, odd]
    rfl

namespace Level

def unplaced (level : Level) : Level where
  terms := levelUnplaced level.terms
  connective := level.connective
  negated := level.negated
  lastNot := level.lastNot.map fun _ => 0

theorem awaitsOperator_unplaced (level : Level) :
    level.unplaced.awaitsOperator = level.awaitsOperator := by
  simp [awaitsOperator, unplaced]

theorem toOption_close_unplaced (level : Level) :
    level.unplaced.close.toOption = level.close.toOption.map levelUnplaced := by
  cases lastNot : level.lastNot <;> cases connective : level.connective <;>
    simp [close, unplaced, lastNot, connective, Except.toOption]

theorem toOption_connect_unplaced (level : Level) (connective : Connective) (position : Nat) :
    (level.unplaced.connect connective 0).toOption =
      (level.connect connective position).toOption.map unplaced := by
  cases terms : level.terms <;> cases lastNot : level.lastNot <;>
    cases present : level.connective <;>
    simp [connect, unplaced, terms, lastNot, present, levelUnplaced, Except.toOption]

theorem unplaced_push_word (level : Level) (text : String) (position : Nat) :
    (level.push (.word · text) position).unplaced = level.unplaced.push (.word · text) 0 := by
  simp [push, unplaced, levelUnplaced_append, levelUnplaced, Term.unplaced, Lead.unplaced]

theorem unplaced_push_group (level : Level) (terms : List Term) (position : Nat) :
    (level.push (.group · terms) position).unplaced =
      level.unplaced.push (.group · (levelUnplaced terms)) 0 := by
  simp [push, unplaced, levelUnplaced_append, levelUnplaced, Term.unplaced, Lead.unplaced]

theorem unplaced_negate (level : Level) {run other : Nat} (parity : run % 2 = other % 2)
    (position : Nat) :
    (level.negate run position).unplaced = level.unplaced.negate other 0 := by
  simp [negate, unplaced, parity]

end Level

namespace Arranger

def unplaced (state : Arranger) : Arranger where
  level := state.level.unplaced
  outer := state.outer.map fun enclosing => (enclosing.1.unplaced, 0)

theorem toOption_atOperand_unplaced (state next : Arranger) (position : Nat) :
    (state.unplaced.atOperand 0 next.unplaced).toOption =
      (state.atOperand position next).toOption.map unplaced := by
  rw [atOperand, atOperand, show state.unplaced.level = state.level.unplaced from rfl,
    Level.awaitsOperator_unplaced]
  cases state.level.awaitsOperator <;> rfl

theorem toOption_step_unplaced (state : Arranger) (token : Token) :
    (state.unplaced.step token.meaning).toOption = (state.step token).toOption.map unplaced := by
  rcases state with ⟨level, outer⟩
  have operator (connective : Connective) (kind : token.kind = connective.kind) :
      ((unplaced ⟨level, outer⟩).step token.meaning).toOption =
        (step ⟨level, outer⟩ token).toOption.map unplaced := by
    have meant : token.meaning.kind = connective.kind := kind
    have connected := Level.toOption_connect_unplaced level connective token.position
    rw [step_of_operator meant, step_of_operator kind, Outcome.toOption_map, Outcome.toOption_map,
      Option.map_map]
    change (level.unplaced.connect connective 0).toOption.map _ = _
    rw [connected, Option.map_map]
    rfl
  cases kind : token.kind with
  | and => exact operator .and kind
  | or => exact operator .or kind
  | not =>
      have meant : token.meaning.kind = .not := kind
      rw [step_of_not meant, step_of_not kind, ← toOption_atOperand_unplaced]
      change ((unplaced ⟨level, outer⟩).atOperand 0
        ⟨level.unplaced.negate token.meaning.text.length 0, _⟩).toOption = _
      rw [← Level.unplaced_negate level (Token.parity_meaning kind) token.position]
      rfl
  | opening =>
      have meant : token.meaning.kind = .opening := kind
      rw [step_of_opening meant, step_of_opening kind, ← toOption_atOperand_unplaced]
      rfl
  | closing =>
      have meant : token.meaning.kind = .closing := kind
      cases outer with
      | nil =>
          rw [step_of_unopened kind]
          exact congrArg Except.toOption (step_of_unopened meant level.unplaced)
      | cons enclosing outer =>
          have closed := step_of_closing meant level.unplaced enclosing.1.unplaced 0
            (unplaced ⟨level, outer⟩).outer
          rw [step_of_closing kind, Outcome.toOption_map, Option.map_map]
          refine (congrArg Except.toOption closed).trans ?_
          rw [Outcome.toOption_map, Level.toOption_close_unplaced, Option.map_map]
          apply congrArg (level.close.toOption.map ·)
          funext terms
          simp only [Function.comp_apply, unplaced, Level.unplaced_push_group]
  | word =>
      have meant : token.meaning.kind = .word := kind
      have same : token.meaning.text = token.text := by simp only [Token.meaning, kind]
      rw [step_of_word meant, step_of_word kind, ← toOption_atOperand_unplaced, same]
      change ((unplaced ⟨level, outer⟩).atOperand 0
        ⟨level.unplaced.push (.word · token.text) 0, _⟩).toOption = _
      rw [← Level.unplaced_push_word level token.text token.position]
      rfl
  | invalid =>
      have meant : token.meaning.kind = .invalid := kind
      rw [step_of_invalid meant, step_of_invalid kind]
      rfl

theorem toOption_run_cons (state : Arranger) (token : Token) (rest : List Token) :
    (run state (token :: rest)).toOption =
      (state.step token).toOption.bind fun next => (run next rest).toOption := by
  rw [run, List.foldlM_cons, bind_assoc, Outcome.toOption_bind]
  rfl

theorem toOption_run_unplaced (state : Arranger) (tokens : List Token) :
    (run state.unplaced (tokens.map Token.meaning)).toOption =
      (run state tokens).toOption.map levelUnplaced := by
  induction tokens generalizing state with
  | nil =>
      rcases state with ⟨level, outer⟩
      change (level.unplaced.close >>= _).toOption = (level.close >>= _).toOption.map levelUnplaced
      rw [Outcome.toOption_bind, Outcome.toOption_bind, Level.toOption_close_unplaced]
      cases level.close with
      | error flaw => rfl
      | ok terms =>
          cases outer with
          | nil => rfl
          | cons enclosing outer => rfl
  | cons token rest ih =>
      rw [List.map_cons, toOption_run_cons, toOption_run_cons, toOption_step_unplaced,
        Option.bind_map, Option.map_bind]
      apply congrArg
      funext next
      exact ih next

theorem toOption_run_join {one second joint : Token} (oneNot : one.kind = .not)
    (secondNot : second.kind = .not) (jointNot : joint.kind = .not)
    (length : joint.text.length = one.text.length + second.text.length) (state : Arranger)
    (rest : List Token) :
    (run state (one.meaning :: second.meaning :: rest)).toOption =
      (run state (joint.meaning :: rest)).toOption := by
  have oneMeant : one.meaning.kind = .not := oneNot
  have secondMeant : second.meaning.kind = .not := secondNot
  have jointMeant : joint.meaning.kind = .not := jointNot
  have parity : (joint.meaning.text.length % 2 == 1) =
      ((one.meaning.text.length % 2 == 1) != (second.meaning.text.length % 2 == 1)) := by
    rw [← Token.parity_meaning oneNot, ← Token.parity_meaning secondNot,
      ← Token.parity_meaning jointNot, length, odd_add]
  rw [toOption_run_cons, toOption_run_cons, step_of_not oneMeant, step_of_not jointMeant]
  rcases state with ⟨level, outer⟩
  cases awaits : level.awaitsOperator with
  | true =>
      rw [atOperand_of_awaits awaits, atOperand_of_awaits awaits]
      rfl
  | false =>
      have free : (level.negate one.meaning.text.length 0).awaitsOperator = false := awaits
      have joined : (level.negate one.meaning.text.length 0).negate second.meaning.text.length 0 =
          level.negate joint.meaning.text.length 0 := by
        simp only [Level.negate, parity, Bool.bne_assoc]
      rw [atOperand_of_free awaits, atOperand_of_free awaits]
      change (run ⟨level.negate one.meaning.text.length 0, outer⟩ (second.meaning :: rest)).toOption =
        (run ⟨level.negate joint.meaning.text.length 0, outer⟩ rest).toOption
      rw [toOption_run_cons, step_of_not secondMeant, atOperand_of_free free, ← joined]
      rfl

end Arranger

theorem exists_arrange_of_meaning {tokens others : List Token} {terms : List Term}
    (arranged : arrange tokens = .ok terms)
    (same : (Arranger.run {} (others.map Token.meaning)).toOption =
      (Arranger.run {} (tokens.map Token.meaning)).toOption) :
    ∃ rearranged, arrange others = .ok rearranged ∧
      levelUnplaced rearranged = levelUnplaced terms := by
  have known : (Arranger.run {} tokens).toOption = some terms :=
    Outcome.toOption_eq_some_iff.mpr arranged
  have meant : (Arranger.run {} others).toOption.map levelUnplaced = some (levelUnplaced terms) := by
    calc
      (Arranger.run {} others).toOption.map levelUnplaced
          = (Arranger.run {} (others.map Token.meaning)).toOption :=
        (Arranger.toOption_run_unplaced {} others).symm
      _ = (Arranger.run {} (tokens.map Token.meaning)).toOption := same
      _ = (Arranger.run {} tokens).toOption.map levelUnplaced :=
        Arranger.toOption_run_unplaced {} tokens
      _ = some (levelUnplaced terms) := by rw [known, Option.map_some]
  rcases Option.map_eq_some_iff.mp meant with ⟨rearranged, found, unplaced⟩
  exact ⟨rearranged, Outcome.toOption_eq_some_iff.mp found, unplaced⟩

end Variants
