import Variants.Proofs.Condition.Unplaced

/-!
Other spellings of a text. Blanks may stand or not stand around every token, an operator may be any run of
its characters, and a negation any run of exclamation marks of the same parity. In a text that is accepted
only negations can run into each other then, and their parities add up. Main statement: every other
spelling of a text states the condition of the text and is rendered like it.
-/

namespace Variants

/-- Characters that can stand for a token. -/
def Token.Spelled (token : Token) (text : List Char) : Prop :=
  match token.kind with
  | .and | .or => text ≠ [] ∧ ∀ c ∈ text, token.kind.Admits c
  | .not =>
    text ≠ [] ∧ (∀ c ∈ text, token.kind.Admits c) ∧ text.length % 2 = token.text.length % 2
  | .opening | .closing | .word | .invalid => text = token.text.toList

/-- Characters that spell tokens one after the other, with any blanks before, between and after them. -/
inductive Respells : List Token → List Char → Prop
  | done {gap : List Char} (blank : ∀ c ∈ gap, isBlank c = true) : Respells [] gap
  | token {token : Token} {tokens : List Token} {gap text rest : List Char}
      (blank : ∀ c ∈ gap, isBlank c = true) (spelled : token.Spelled text)
      (further : Respells tokens rest) : Respells (token :: tokens) (gap ++ (text ++ rest))

namespace Token

variable {token : Token} {text : List Char}

theorem spelled_iff_of_not (kind : token.kind = .not) :
    token.Spelled text ↔
      text ≠ [] ∧ (∀ c ∈ text, c = '!') ∧ text.length % 2 = token.text.length % 2 := by
  simp only [Spelled, kind, TokenKind.Admits]

theorem Spelled.proper (spelled : token.Spelled text) (proper : token.lexeme.Proper) :
    Lexeme.Proper ⟨token.kind, String.ofList text⟩ := by
  have ofRun (runs : token.kind.runs = true) (nonempty : text ≠ [])
      (admitted : ∀ c ∈ text, token.kind.Admits c) :
      Lexeme.Proper ⟨token.kind, String.ofList text⟩ := by
    refine ⟨by simpa using nonempty, ?_, ?_⟩
    · intro c inside
      rw [String.toList_ofList] at inside
      exact TokenKind.ofChar?_of_admits (admitted c inside)
    · intro single
      rw [runs] at single
      contradiction
  have ofSame (same : text = token.text.toList) :
      Lexeme.Proper ⟨token.kind, String.ofList text⟩ := by
    rw [same, String.ofList_toList]
    exact proper
  unfold Spelled at spelled
  cases kind : token.kind <;> simp only [kind] at spelled ofRun ofSame
  · exact ofRun rfl spelled.1 spelled.2
  · exact ofRun rfl spelled.1 spelled.2
  · exact ofRun rfl spelled.1 spelled.2.1
  · exact ofSame spelled
  · exact ofSame spelled
  · exact ofSame spelled
  · exact ofSame spelled

theorem Spelled.meaning_eq (spelled : token.Spelled text) (position : Nat) :
    (⟨token.kind, String.ofList text, position⟩ : Token).meaning = token.meaning := by
  unfold Spelled at spelled
  cases kind : token.kind <;> simp only [kind] at spelled <;> simp only [meaning, kind]
  · simp only [String.length_ofList, spelled.2.2]
  · rw [spelled, String.ofList_toList]

theorem Spelled.append {second : Token} {more : List Char} (spelled : token.Spelled text)
    (kind : token.kind = .not) (secondSpelled : second.Spelled more) (secondKind : second.kind = .not)
    {position : Nat} : (⟨.not, token.text ++ second.text, position⟩ : Token).Spelled (text ++ more) := by
  rcases (spelled_iff_of_not kind).mp spelled with ⟨nonempty, marks, parity⟩
  rcases (spelled_iff_of_not secondKind).mp secondSpelled with ⟨_, secondMarks, secondParity⟩
  refine (spelled_iff_of_not rfl).mpr ⟨by simp [nonempty], ?_, ?_⟩
  · intro c inside
    rcases List.mem_append.mp inside with early | late
    · exact marks c early
    · exact secondMarks c late
  · rw [List.length_append, String.length_append, Nat.add_mod, parity, secondParity, ← Nat.add_mod]

def MayPrecede (one other : Token) : Prop :=
  one.kind.runs = true → one.kind = other.kind → one.kind = .not

end Token

namespace Arranger

theorem Steps.mayPrecede {state next after : Arranger} {one other : Token}
    (first : Steps state one next) (second : Steps next other after) : one.MayPrecede other := by
  intro runs same
  cases first with
  | closing closing => simp [closing.property, TokenKind.runs] at runs
  | opening opening => simp [opening.property, TokenKind.runs] at runs
  | not negation => exact negation.property
  | operator operator =>
      have kind := same.symm.trans operator.kind_token
      have awaits := ((step_of_operator_eq_ok_iff kind).mp (step_eq_ok_iff.mpr second)).1
      simp [Level.awaitsOperator] at awaits
  | word word =>
      have moved := step_eq_ok_iff.mpr second
      rw [step_of_word (same.symm.trans word.property), atOperand_eq_ok_iff,
        Level.awaitsOperator_push] at moved
      exact absurd moved.1.symm Bool.false_ne_true

theorem isChain_mayPrecede {state : Arranger} {tokens : List Token} {terms : List Term}
    (accepted : run state tokens = .ok terms) : tokens.IsChain Token.MayPrecede := by
  induction tokens generalizing state with
  | nil => exact .nil
  | cons token rest ih =>
      rcases run_cons_eq_ok_iff.mp accepted with ⟨next, steps, later⟩
      refine List.isChain_cons.mpr ⟨?_, ih later⟩
      intro other head
      cases rest with
      | nil => contradiction
      | cons second rest =>
          obtain rfl : second = other := Option.some.inj head
          rcases run_cons_eq_ok_iff.mp later with ⟨after, further, _⟩
          exact steps.mayPrecede further

end Arranger

namespace Respells

theorem exists_first {tokens : List Token} {chars : List Char} (respells : Respells tokens chars)
    (proper : ∀ token ∈ tokens, token.lexeme.Proper) {c : Char} (first : c ∈ chars.head?)
    {kind : TokenKind} (found : TokenKind.ofChar? c = some kind) :
    ∃ second others text after, tokens = second :: others ∧ second.kind = kind ∧
      second.Spelled text ∧ chars = text ++ after ∧ Respells others after := by
  have solid : isBlank c ≠ true := by
    rw [ne_eq, ← TokenKind.ofChar?_eq_none_iff, found]
    exact Option.some_ne_none kind
  cases respells with
  | done blank => exact absurd (blank c (List.mem_of_head? first)) solid
  | @token second others gap text after blank spelled further =>
      cases gap with
      | cons space gap =>
          obtain rfl : space = c := Option.some.inj first
          exact absurd (blank space List.mem_cons_self) solid
      | nil =>
          have secondProper := spelled.proper (proper second List.mem_cons_self)
          have head := secondProper.ofChar?_head after c
          rw [String.toList_ofList] at head
          have same := (head first).symm.trans found
          exact ⟨second, others, text, after, rfl, Option.some.inj same, spelled, rfl, further⟩

theorem toOption_run_scan {tokens : List Token} {chars : List Char}
    (respells : Respells tokens chars) (proper : ∀ token ∈ tokens, token.lexeme.Proper)
    (chain : tokens.IsChain Token.MayPrecede) (state : Arranger) (position : Nat) :
    (Arranger.run state ((Token.scan position chars).map Token.meaning)).toOption =
      (Arranger.run state (tokens.map Token.meaning)).toOption := by
  cases respells with
  | @done gap blank =>
      have none := Token.scan_blanks blank [] position
      rw [List.append_nil] at none
      rw [none]
      rfl
  | @token token tokens gap text rest blank spelled further =>
      rcases List.forall_mem_cons.mp proper with ⟨tokenProper, restProper⟩
      rcases List.isChain_cons.mp chain with ⟨precedes, restChain⟩
      rw [Token.scan_blanks blank]
      by_cases meets : token.kind = .not ∧ '!' ∈ rest.head?
      · -- Two negations meet and are cut off as one, so the spelling is one of fewer tokens.
        rcases meets with ⟨isNot, next⟩
        rcases further.exists_first restProper next rfl with
          ⟨second, others, more, after, rfl, secondNot, secondSpelled, rfl, later⟩
        let joint : Token := ⟨.not, token.text ++ second.text, 0⟩
        have jointSpelled : joint.Spelled (text ++ more) := spelled.append isNot secondSpelled secondNot
        have fewer : Respells (joint :: others) ([] ++ ((text ++ more) ++ after)) :=
          .token (by simp) jointSpelled later
        rcases List.forall_mem_cons.mp restProper with ⟨secondProper, othersProper⟩
        have jointProper : joint.lexeme.Proper := by
          rw [Token.lexeme, isNot] at tokenProper
          rw [Token.lexeme, secondNot] at secondProper
          exact tokenProper.append rfl secondProper
        have jointChain : (joint :: others).IsChain Token.MayPrecede := by
          rcases List.isChain_cons.mp restChain with ⟨_, othersChain⟩
          exact List.isChain_cons.mpr ⟨fun _ _ _ _ => rfl, othersChain⟩
        have read := toOption_run_scan fewer (List.forall_mem_cons.mpr ⟨jointProper, othersProper⟩)
          jointChain state (position + gap.length)
        rw [List.nil_append, List.append_assoc] at read
        have length : joint.text.length = token.text.length + second.text.length :=
          String.length_append _ _
        rw [read, List.map_cons, List.map_cons, List.map_cons]
        exact (Arranger.toOption_run_join isNot secondNot (show joint.kind = .not from rfl) length state
          _).symm
      · let respelled : Token := ⟨token.kind, String.ofList text, position + gap.length⟩
        have respelledProper : respelled.lexeme.Proper := spelled.proper tokenProper
        have ends : respelled.lexeme.EndsAt rest := by
          intro runs c next found
          rcases further.exists_first restProper next found with
            ⟨second, others, _, _, rfl, same, _, _, _⟩
          have isNot := precedes second rfl runs same.symm
          have mark : c = '!' := TokenKind.eq_of_ofChar?_eq_not (found.trans (congrArg some isNot))
          exact meets ⟨isNot, mark ▸ next⟩
        have scanned := Token.scan_token respelledProper ends
        rw [String.toList_ofList] at scanned
        rw [scanned, List.map_cons, List.map_cons, spelled.meaning_eq, Arranger.toOption_run_cons,
          Arranger.toOption_run_cons]
        apply congrArg
        funext next
        exact toOption_run_scan further restProper restChain next respelled.stop
termination_by tokens.length

end Respells

theorem exists_splitTerms_of_respells {text other : String} {terms : List Term}
    (split : splitTerms text = .ok terms) (respells : Respells (tokenize text) other.toList) :
    ∃ restated, splitTerms other = .ok restated ∧ levelUnplaced restated = levelUnplaced terms := by
  have arranged : arrange (tokenize text) = .ok terms := Outcome.mapError_eq_ok_iff.mp split
  have chain := Arranger.isChain_mayPrecede (show Arranger.run {} (tokenize text) = .ok terms from arranged)
  have same := respells.toOption_run_scan (scans_tokenize text).proper chain {} 0
  rcases exists_arrange_of_meaning arranged same with ⟨restated, rearranged, unplaced⟩
  exact ⟨restated, Outcome.mapError_eq_ok_iff.mpr rearranged, unplaced⟩

/-- A text with other blanks and other spellings of its operators and negations states the same condition,
and in every template it is rendered the same, with the same failure where the template fails. -/
theorem parse_and_render_of_respells (registry : Registry) {text other : String} {condition : Condition}
    (read : Condition.parse registry (some text) = .ok condition)
    (respells : Respells (tokenize text) other.toList) :
    Condition.parse registry (some other) = .ok condition ∧
      ∀ {Custom : Type} [AtomWriter Custom] (template : Template Custom) (scope : String),
        render registry template scope (some other) = render registry template scope (some text) := by
  rcases Condition.parse_eq_ok_iff.mp read with ⟨terms, split, termsRead⟩
  rcases exists_splitTerms_of_respells split respells with ⟨restated, otherSplit, same⟩
  constructor
  · apply Condition.parse_eq_ok_iff.mpr
    refine ⟨restated, otherSplit, ?_⟩
    rw [← Condition.ofTerms_unplaced, same, Condition.ofTerms_unplaced]
    exact termsRead
  · intro Custom _ template scope
    rw [render_some, render_some, split, otherSplit]
    change Traced.andThen ⟨[], .ok restated⟩ _ = Traced.andThen ⟨[], .ok terms⟩ _
    simp only [Traced.andThen]
    rw [← renderTerms_unplaced, same, renderTerms_unplaced]

theorem parse_and_render_of_respells_of_example :
    let text := "x86 | ! !!woa , Debug"
    let other := "\tx86+!!!woa\\/Debug "
    let condition := Condition.and
      (.or (.choice "Platform" "Win32" false) (.choice "Platform" "ARM" true))
      (.choice "Configuration" "Debug" false)
    let template : Template := .buildCondition
    Condition.parse Example.registry (some text) = .ok condition ∧
      Respells (tokenize text) other.toList ∧
      Condition.parse Example.registry (some other) = .ok condition ∧
      render Example.registry template "zlib" (some other) =
        render Example.registry template "zlib" (some text) := by
  intro text other condition template
  have read : Condition.parse Example.registry (some text) = .ok condition := by
    apply Condition.parse_eq_ok_of_toOption
    decide +kernel
  have cut : tokenize text = [⟨.word, "x86", 0⟩, ⟨.or, "|", 4⟩, ⟨.not, "!", 6⟩, ⟨.not, "!!", 8⟩,
      ⟨.word, "woa", 10⟩, ⟨.and, ",", 14⟩, ⟨.word, "Debug", 16⟩] := by decide +kernel
  have respells : Respells (tokenize text) other.toList := by
    rw [cut]
    have noGap : ∀ c ∈ ([] : List Char), isBlank c = true := List.forall_mem_nil _
    have tab : ∀ c ∈ ['\t'], isBlank c = true := List.all_eq_true.mp rfl
    have last : Respells [⟨.word, "Debug", 16⟩] ([] ++ ("Debug".toList ++ [' '])) :=
      .token noGap rfl (.done (List.all_eq_true.mp rfl))
    have second : Respells [⟨.word, "woa", 10⟩, ⟨.and, ",", 14⟩, ⟨.word, "Debug", 16⟩]
        ([] ++ ("woa".toList ++ ([] ++ (['\\', '/'] ++ "Debug ".toList)))) :=
      .token noGap rfl (.token noGap ⟨by decide, by simp [TokenKind.Admits]⟩ last)
    have negations : Respells [⟨.not, "!", 6⟩, ⟨.not, "!!", 8⟩, ⟨.word, "woa", 10⟩, ⟨.and, ",", 14⟩,
        ⟨.word, "Debug", 16⟩] ([] ++ (['!'] ++ ([] ++ (['!', '!'] ++ "woa\\/Debug ".toList)))) :=
      .token noGap ⟨by decide, by simp [TokenKind.Admits], by decide⟩
        (.token noGap ⟨by decide, by simp [TokenKind.Admits], by decide⟩ second)
    have all : Respells [⟨.word, "x86", 0⟩, ⟨.or, "|", 4⟩, ⟨.not, "!", 6⟩, ⟨.not, "!!", 8⟩,
        ⟨.word, "woa", 10⟩, ⟨.and, ",", 14⟩, ⟨.word, "Debug", 16⟩]
        (['\t'] ++ ("x86".toList ++ ([] ++ (['+'] ++ "!!!woa\\/Debug ".toList)))) :=
      .token tab rfl (.token noGap ⟨by decide, by simp [TokenKind.Admits]⟩ negations)
    have spelled : ['\t'] ++ ("x86".toList ++ ([] ++ (['+'] ++ "!!!woa\\/Debug ".toList))) =
        other.toList := by decide +kernel
    exact spelled ▸ all
  rcases parse_and_render_of_respells Example.registry read respells with ⟨otherRead, rendered⟩
  exact ⟨read, respells, otherRead, rendered template "zlib"⟩

end Variants
