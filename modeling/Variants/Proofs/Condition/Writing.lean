import Variants.Proofs.Condition.Lexeme
import Variants.Proofs.Condition.Words
import Variants.Proofs.Registry.Plain

/-!
Terms written out as lexemes. A word is written by the name of its choice, a constant in lowercase, and a
group without terms as the constant it stands for. In a plain registry, what is written for words that
name something consists of proper lexemes that do not run into each other.
-/

namespace Variants

structure Script where
  text : Connective → String
  proper : ∀ connective : Connective, Lexeme.Proper ⟨connective.kind, text connective⟩

namespace Script

def operator (script : Script) (connective : Connective) : Lexeme :=
  ⟨connective.kind, script.text connective⟩

end Script

namespace Lexeme

def negation : Lexeme := ⟨.not, "!"⟩

def opening : Lexeme := ⟨.opening, "("⟩

def closing : Lexeme := ⟨.closing, ")"⟩

def always : Lexeme := ⟨.word, "true"⟩

theorem proper_negation : negation.Proper := .of_all (by decide) (by decide) (by decide)

theorem proper_opening : opening.Proper := .of_all (by decide) (by decide) (by decide)

theorem proper_closing : closing.Proper := .of_all (by decide) (by decide) (by decide)

theorem proper_always : always.Proper := .of_all (by decide) (by decide) (by decide)

theorem proper_of_word {text : String} (nonempty : text ≠ "")
    (inWord : ∀ c ∈ text.toList, TokenKind.isWordChar c = true) : Proper ⟨.word, text⟩ where
  nonempty := by
    rw [ne_eq, String.toList_eq_nil_iff]
    exact nonempty
  ofKind c inside := TokenKind.ofChar?_of_isWordChar (inWord c inside)
  single runs := by contradiction

end Lexeme

def Registry.written (registry : Registry) (word : String) : String :=
  match registry.resolve? word with
  | some (_, choice) => choice
  | none => lowercase word

def Lead.signs (lead : Lead) : List Lexeme :=
  if lead.negated then [.negation] else []

/-- What is written before an operand: an operator, unless the operand is the first of its level, and a
negation. -/
def Script.lead (script : Script) (first : Bool) (lead : Lead) : List Lexeme :=
  (if first then [] else [script.operator (lead.connective.getD .or)]) ++ lead.signs

section

variable (registry : Registry) (script : Script)

mutual

def Term.lexemes : Term → List Lexeme
  | .word _ word => [⟨.word, registry.written word⟩]
  | .group _ terms =>
    if terms.isEmpty then [.always] else .opening :: (levelLexemes true terms ++ [.closing])

def levelLexemes (first : Bool) : List Term → List Lexeme
  | [] => []
  | term :: rest => script.lead first term.lead ++ (term.lexemes ++ levelLexemes false rest)

end

end

variable {registry : Registry} {script : Script}

namespace Registry

theorem unknown_eq_false_of_unresolved? {word : String} (resolves : registry.unresolved? [word] = none) :
    registry.unknown word = false := by
  simpa [unresolved?] using resolves

theorem written_cases {word : String} (resolves : registry.unresolved? [word] = none) :
    (∃ pivot choice, registry.resolve? word = some (pivot, choice) ∧ registry.written word = choice) ∨
      registry.resolve? word = none ∧ registry.written word = lowercase word ∧
        (lowercase word = "true" ∨ lowercase word = "false") := by
  have known := unknown_eq_false_of_unresolved? resolves
  cases resolved : registry.resolve? word with
  | some found => exact .inl ⟨found.1, found.2, rfl, by rw [written, resolved]⟩
  | none =>
      have constant : isConstantWord word = true := by simpa [unknown, resolved] using known
      exact .inr ⟨rfl, by rw [written, resolved], by simpa [isConstantWord] using constant⟩

theorem Plain.proper_written (plain : registry.Plain) {word : String}
    (resolves : registry.unresolved? [word] = none) :
    Lexeme.Proper ⟨.word, registry.written word⟩ := by
  rcases written_cases resolves with ⟨name, choice, resolved, same⟩ | ⟨_, same, isTrue | isFalse⟩
  · rcases declares_of_resolve?_eq_some resolved with ⟨pivot, present, _, member⟩
    rw [same]
    exact Lexeme.proper_of_word (plain.nonempty pivot present choice member)
      (plain.inWord pivot present choice member)
  · rw [same, isTrue]
    exact Lexeme.proper_always
  · rw [same, isFalse]
    exact .of_all (by decide) (by decide) (by decide)

end Registry

theorem Lead.eq_negation_of_mem_signs {lead : Lead} {lexeme : Lexeme} (member : lexeme ∈ lead.signs) :
    lexeme = .negation := by
  rw [signs] at member
  split at member
  · exact List.mem_singleton.mp member
  · contradiction

theorem Script.proper_lead (script : Script) (first : Bool) (lead : Lead) :
    ∀ lexeme ∈ script.lead first lead, lexeme.Proper := by
  intro lexeme member
  rcases List.mem_append.mp member with isOperator | isSign
  · split at isOperator
    · contradiction
    · rw [List.mem_singleton.mp isOperator]
      exact script.proper _
  · rw [Lead.eq_negation_of_mem_signs isSign]
    exact Lexeme.proper_negation

mutual

theorem proper_termLexemes (plain : registry.Plain) {term : Term}
    (resolves : registry.unresolved? term.words = none) :
    ∀ lexeme ∈ term.lexemes registry script, lexeme.Proper := by
  intro lexeme member
  cases term with
  | word lead word =>
      rw [Term.lexemes, List.mem_singleton] at member
      rw [member]
      exact plain.proper_written resolves
  | group lead terms =>
      rw [Term.lexemes] at member
      split at member
      · rw [List.mem_singleton.mp member]
        exact Lexeme.proper_always
      · rw [List.mem_cons, List.mem_append, List.mem_singleton] at member
        rcases member with rfl | inside | rfl
        · exact Lexeme.proper_opening
        · exact proper_levelLexemes plain resolves lexeme inside
        · exact Lexeme.proper_closing

theorem proper_levelLexemes (plain : registry.Plain) {first : Bool} {terms : List Term}
    (resolves : registry.unresolved? (levelWords terms) = none) :
    ∀ lexeme ∈ levelLexemes registry script first terms, lexeme.Proper := by
  intro lexeme member
  cases terms with
  | nil =>
      rw [levelLexemes] at member
      contradiction
  | cons term rest =>
      rw [levelWords, Registry.unresolved?_append, Option.or_eq_none_iff] at resolves
      rw [levelLexemes, List.mem_append, List.mem_append] at member
      rcases member with inLead | inTerm | later
      · exact script.proper_lead first term.lead lexeme inLead
      · exact proper_termLexemes plain resolves.1 lexeme inTerm
      · exact proper_levelLexemes plain resolves.2 lexeme later

end

/-- Lexemes that do not run into each other, and of which none runs into a word before them. -/
structure Follows (lexemes : List Lexeme) : Prop where
  apart : lexemes.IsChain Lexeme.Apart
  notWord : ∀ lexeme ∈ lexemes.head?, lexeme.kind ≠ .word

theorem follows_nil : Follows [] where
  apart := .nil
  notWord lexeme member := by contradiction

theorem Follows.closing {after : List Lexeme} (apart : after.IsChain Lexeme.Apart) :
    Follows (.closing :: after) where
  apart := List.isChain_cons.mpr ⟨fun _ _ runs => by contradiction, apart⟩
  notWord lexeme member := by
    rw [← Option.some.inj member]
    decide

theorem Follows.word {after : List Lexeme} (follows : Follows after) (text : String) :
    (⟨.word, text⟩ :: after).IsChain Lexeme.Apart := by
  refine List.isChain_cons.mpr ⟨?_, follows.apart⟩
  intro lexeme member _
  exact (follows.notWord lexeme member).symm

structure Begins (lexemes : List Lexeme) : Prop where
  apart : lexemes.IsChain Lexeme.Apart
  operand : ∀ lexeme ∈ lexemes.head?, lexeme.kind = .word ∨ lexeme.kind = .opening

theorem Begins.negated {lexemes : List Lexeme} (begins : Begins lexemes) :
    (.negation :: lexemes).IsChain Lexeme.Apart := by
  refine List.isChain_cons.mpr ⟨?_, begins.apart⟩
  intro lexeme member _ same
  rcases begins.operand lexeme member with isWord | isOpening
  · rw [← same] at isWord
    contradiction
  · rw [← same] at isOpening
    contradiction

theorem Begins.lead {lexemes : List Lexeme} (begins : Begins lexemes) (script : Script) (first : Bool)
    (lead : Lead) :
    (script.lead first lead ++ lexemes).IsChain Lexeme.Apart ∧
      (first = false → ∀ lexeme ∈ (script.lead first lead ++ lexemes).head?, lexeme.kind ≠ .word) := by
  have signed : (lead.signs ++ lexemes).IsChain Lexeme.Apart ∧
      ∀ lexeme ∈ (lead.signs ++ lexemes).head?,
        ∀ connective : Connective, lexeme.kind ≠ connective.kind := by
    rw [Lead.signs]
    cases lead.negated with
    | true =>
        refine ⟨begins.negated, ?_⟩
        intro lexeme member connective
        rw [← Option.some.inj member]
        cases connective with
        | and => decide
        | or => decide
    | false =>
        refine ⟨begins.apart, ?_⟩
        intro lexeme member connective same
        rcases begins.operand lexeme member with isWord | isOpening
        · rw [isWord] at same
          cases connective <;> contradiction
        · rw [isOpening] at same
          cases connective <;> contradiction
  cases first with
  | true => exact ⟨by simpa [Script.lead] using signed.1, fun absurd => by contradiction⟩
  | false =>
      have operator : (script.lead false lead ++ lexemes) =
          script.operator (lead.connective.getD .or) :: (lead.signs ++ lexemes) := by
        simp [Script.lead]
      rw [operator]
      refine ⟨List.isChain_cons.mpr ⟨?_, signed.1⟩, ?_⟩
      · intro lexeme member _
        exact (signed.2 lexeme member _).symm
      · intro _ lexeme member
        rw [← Option.some.inj member]
        cases connective : lead.connective.getD .or <;>
          simp [Script.operator, Connective.kind]

mutual

theorem begins_termLexemes (registry : Registry) (script : Script) (term : Term) {after : List Lexeme}
    (follows : Follows after) : Begins (term.lexemes registry script ++ after) := by
  cases term with
  | word lead word =>
      rw [Term.lexemes, List.singleton_append]
      refine ⟨follows.word _, ?_⟩
      intro lexeme member
      rw [← Option.some.inj member]
      exact .inl rfl
  | group lead terms =>
      rw [Term.lexemes]
      split
      · refine ⟨follows.word _, ?_⟩
        intro lexeme member
        rw [← Option.some.inj member]
        exact .inl rfl
      · rw [List.cons_append, List.append_assoc, List.singleton_append]
        have inner := apart_levelLexemes registry script true terms (Follows.closing follows.apart)
        refine ⟨List.isChain_cons.mpr ⟨fun _ _ runs => by contradiction, inner.1⟩, ?_⟩
        intro lexeme member
        rw [← Option.some.inj member]
        exact .inr rfl

theorem apart_levelLexemes (registry : Registry) (script : Script) (first : Bool) (terms : List Term)
    {after : List Lexeme} (follows : Follows after) :
    (levelLexemes registry script first terms ++ after).IsChain Lexeme.Apart ∧
      (first = false →
        ∀ lexeme ∈ (levelLexemes registry script first terms ++ after).head?, lexeme.kind ≠ .word) := by
  cases terms with
  | nil =>
      rw [levelLexemes, List.nil_append]
      exact ⟨follows.apart, fun _ => follows.notWord⟩
  | cons term rest =>
      have later := apart_levelLexemes registry script false rest follows
      have begins := begins_termLexemes registry script term ⟨later.1, later.2 rfl⟩
      rw [levelLexemes, List.append_assoc, List.append_assoc]
      exact begins.lead script first term.lead

end

theorem lexemes_tokenize_level (plain : registry.Plain) (script : Script) {terms : List Term}
    (resolves : registry.unresolved? (levelWords terms) = none) :
    (tokenize (lexemesText (levelLexemes registry script true terms))).map Token.lexeme =
      levelLexemes registry script true terms := by
  apply lexemes_tokenize
  · exact proper_levelLexemes plain resolves
  · have apart := (apart_levelLexemes registry script true terms follows_nil).1
    rwa [List.append_nil] at apart

end Variants
