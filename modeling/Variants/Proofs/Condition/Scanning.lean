import Variants.Proofs.Condition.Lexeme

/-!
How a text is cut. The cuts are described from left to right, each against the characters that follow it,
and they determine the tokens. So the tokens stand in the text in order, they leave out the blanks and
nothing else, and no token could be longer; and a text can be cut off after any token and go on otherwise.
-/

namespace Variants

/-- The tokens of characters of which the first stands at a position. -/
inductive Scans : Nat → List Char → List Token → Prop
  | done {position : Nat} : Scans position [] []
  | blank {position : Nat} {c : Char} {rest : List Char} {tokens : List Token}
      (blank : isBlank c = true) (further : Scans (position + 1) rest tokens) :
      Scans position (c :: rest) tokens
  | token {token : Token} {rest : List Char} {tokens : List Token} (proper : token.lexeme.Proper)
      (ends : token.lexeme.EndsAt rest) (further : Scans token.stop rest tokens) :
      Scans token.position (token.text.toList ++ rest) (token :: tokens)

theorem Token.scan_blank {c : Char} (blank : isBlank c = true) (rest : List Char) (position : Nat) :
    scan position (c :: rest) = scan (position + 1) rest := by
  have only : ∀ d ∈ [c], isBlank d = true := by
    intro d inside
    rw [List.mem_singleton.mp inside]
    exact blank
  exact scan_blanks only rest position

theorem exists_first_lexeme {c : Char} {kind : TokenKind} (found : TokenKind.ofChar? c = some kind)
    (rest : List Char) :
    ∃ (lexeme : Lexeme) (after : List Char), lexeme.text.toList ++ after = c :: rest ∧
      lexeme.Proper ∧ lexeme.EndsAt after := by
  cases runs : kind.runs with
  | false =>
      refine ⟨⟨kind, String.ofList [c]⟩, rest, by simp, ⟨by simp, ?_, by simp⟩, ?_⟩
      · intro d inside
        rw [String.toList_ofList, List.mem_singleton] at inside
        rw [inside]
        exact found
      · intro absurd
        rw [runs] at absurd
        contradiction
  | true =>
      let alike (d : Char) : Bool := TokenKind.ofChar? d == some kind
      refine ⟨⟨kind, String.ofList (c :: rest.takeWhile alike)⟩, rest.dropWhile alike, ?_, ⟨by simp, ?_, ?_⟩,
        ?_⟩
      · rw [String.toList_ofList, List.cons_append, List.takeWhile_append_dropWhile]
      · intro d inside
        rw [String.toList_ofList, List.mem_cons] at inside
        rcases inside with rfl | later
        · exact found
        · simpa [alike] using List.all_eq_true.mp (List.all_takeWhile (l := rest)) d later
      · intro absurd
        rw [runs] at absurd
        contradiction
      · intro _ d next same
        have stopped := List.head?_dropWhile_not alike rest
        rw [Option.mem_def.mp next] at stopped
        simp [alike, same] at stopped

theorem scans_scan (position : Nat) (chars : List Char) :
    Scans position chars (Token.scan position chars) := by
  match chars with
  | [] => exact .done
  | c :: rest =>
      cases kind : TokenKind.ofChar? c with
      | none =>
          have blank := TokenKind.ofChar?_eq_none_iff.mp kind
          rw [Token.scan_blank blank]
          exact .blank blank (scans_scan (position + 1) rest)
      | some found =>
          rcases exists_first_lexeme kind rest with ⟨lexeme, after, split, proper, ends⟩
          let token : Token := ⟨lexeme.kind, lexeme.text, position⟩
          have shorter : after.length < (c :: rest).length := by
            have length := congrArg List.length split
            have nonempty := List.length_pos_of_ne_nil proper.nonempty
            rw [List.length_append] at length
            omega
          have scanned : Token.scan position (lexeme.text.toList ++ after) =
              token :: Token.scan token.stop after := @Token.scan_token token proper _ ends
          have whole : Scans token.position (token.text.toList ++ after)
              (token :: Token.scan token.stop after) := .token proper ends (scans_scan token.stop after)
          rw [← split, scanned]
          exact whole
termination_by chars.length
decreasing_by
  · exact Nat.lt_succ_self rest.length
  · exact shorter

theorem scans_tokenize (text : String) : Scans 0 text.toList (tokenize text) :=
  scans_scan 0 text.toList

namespace Scans

variable {position : Nat} {chars : List Char} {tokens : List Token}

theorem proper (scans : Scans position chars tokens) : ∀ token ∈ tokens, token.lexeme.Proper := by
  induction scans with
  | done => simp
  | blank _ _ ih => exact ih
  | token proper _ _ ih => exact List.forall_mem_cons.mpr ⟨proper, ih⟩

theorem position_le (scans : Scans position chars tokens) :
    ∀ token ∈ tokens, position ≤ token.position := by
  induction scans with
  | done => simp
  | blank _ _ ih =>
      intro token member
      have later := ih token member
      omega
  | token _ _ _ ih =>
      intro other member
      rcases List.mem_cons.mp member with rfl | later
      · exact Nat.le_refl _
      · have after := ih other later
        rw [Token.stop] at after
        omega

theorem pairwise_stop_le (scans : Scans position chars tokens) :
    tokens.Pairwise fun one other => one.stop ≤ other.position := by
  induction scans with
  | done => exact .nil
  | blank _ _ ih => exact ih
  | token _ _ further ih => exact .cons further.position_le ih

theorem exists_split (scans : Scans position chars tokens) :
    ∀ token ∈ tokens, ∃ before after, chars = before ++ (token.text.toList ++ after) ∧
      token.position = position + before.length := by
  induction scans with
  | done => simp
  | @blank position c rest tokens _ _ ih =>
      intro token member
      rcases ih token member with ⟨before, after, rfl, place⟩
      refine ⟨c :: before, after, rfl, ?_⟩
      rw [place, List.length_cons]
      omega
  | @token token rest tokens _ _ _ ih =>
      intro other member
      rcases List.mem_cons.mp member with rfl | later
      · exact ⟨[], rest, rfl, rfl⟩
      · rcases ih other later with ⟨before, after, rfl, place⟩
        refine ⟨token.text.toList ++ before, after, by rw [List.append_assoc], ?_⟩
        rw [place, Token.stop, List.length_append, String.length_toList]
        omega

theorem covered_iff (scans : Scans position chars tokens) {i : Nat} {c : Char}
    (inside : chars[i]? = some c) :
    (∃ token ∈ tokens, token.position ≤ position + i ∧ position + i < token.stop) ↔
      isBlank c = false := by
  induction scans generalizing i with
  | done => simp at inside
  | @blank position first rest tokens blank further ih =>
      cases i with
      | zero =>
          obtain rfl : first = c := by simpa using inside
          rw [blank]
          constructor
          · rintro ⟨token, member, starts, _⟩
            have later := further.position_le token member
            omega
          · intro absurd
            contradiction
      | succ i =>
          rw [← ih (by simpa using inside), Nat.add_right_comm, Nat.add_assoc]
  | @token token rest tokens proper ends further ih =>
      by_cases within : i < token.text.toList.length
      · rw [List.getElem?_append_left within] at inside
        have kind : TokenKind.ofChar? c = some token.kind :=
          proper.ofKind c (List.mem_of_getElem? inside)
        have solid : isBlank c = false := by
          rw [← Bool.not_eq_true, ← TokenKind.ofChar?_eq_none_iff, kind]
          exact Option.some_ne_none _
        rw [String.length_toList] at within
        refine iff_of_true ⟨token, List.mem_cons_self, Nat.le_add_right _ _, ?_⟩ solid
        rw [Token.stop]
        omega
      · rw [List.getElem?_append_right (Nat.le_of_not_lt within)] at inside
        rw [String.length_toList] at within inside
        have place : token.position + i = token.stop + (i - token.text.length) := by
          rw [Token.stop]
          omega
        rw [← ih inside, place, List.exists_mem_cons_iff]
        apply or_iff_right
        rintro ⟨_, before⟩
        omega

theorem position_lt_stop (scans : Scans position chars tokens) :
    ∀ token ∈ tokens, token.position < token.stop := by
  intro token member
  have width : 0 < token.text.length := (scans.proper token member).text_length_pos
  rw [Token.stop]
  omega

theorem ofChar?_head (scans : Scans position chars tokens) {token : Token} (member : token ∈ tokens)
    (first : token.position = position) :
    ∃ c ∈ chars.head?, TokenKind.ofChar? c = some token.kind := by
  rcases scans.exists_split token member with ⟨before, after, split, place⟩
  have proper := scans.proper token member
  have none : before = [] := by
    rw [← List.length_eq_zero_iff]
    omega
  rw [none, List.nil_append] at split
  have nonempty : token.text.toList ≠ [] := proper.nonempty
  refine ⟨token.text.toList.head nonempty, ?_, proper.ofKind _ (List.head_mem nonempty)⟩
  rw [split, List.head?_append_of_ne_nil _ nonempty]
  exact List.head?_eq_some_head nonempty

theorem kind_ne_of_stop_eq (scans : Scans position chars tokens) :
    ∀ one ∈ tokens, ∀ other ∈ tokens, one.kind.runs = true → one.stop = other.position →
      one.kind ≠ other.kind := by
  induction scans with
  | done => simp
  | blank _ _ ih => exact ih
  | @token token rest tokens proper ends further ih =>
      intro one first other second runs meets same
      have whole : Scans token.position (token.text.toList ++ rest) (token :: tokens) :=
        .token proper ends further
      have width := whole.position_lt_stop one first
      rcases List.mem_cons.mp second with rfl | otherLater
      · have order := whole.position_le one first
        omega
      · rcases List.mem_cons.mp first with rfl | oneLater
        · rcases further.ofChar?_head otherLater meets.symm with ⟨c, next, kind⟩
          rw [← same] at kind
          exact ends runs c next kind
        · exact ih one oneLater other otherLater runs meets same

theorem eq_nil_iff (scans : Scans position chars tokens) :
    tokens = [] ↔ ∀ c ∈ chars, isBlank c = true := by
  induction scans with
  | done => simp
  | blank blank _ ih => simp [blank, ih]
  | @token token rest tokens proper _ _ _ =>
      have nonempty : token.text.toList ≠ [] := proper.nonempty
      rcases List.exists_mem_of_ne_nil _ nonempty with ⟨c, inside⟩
      have kind : TokenKind.ofChar? c = some token.kind := proper.ofKind c inside
      simp only [reduceCtorEq, false_iff, not_forall]
      refine ⟨c, List.mem_append_left rest inside, ?_⟩
      rw [← TokenKind.ofChar?_eq_none_iff, kind]
      exact Option.some_ne_none _

theorem exists_front (scans : Scans position chars tokens) {before after : List Token}
    (split : tokens = before ++ after) :
    ∃ front, front <+: chars ∧ ∀ rest, Token.scan position (front ++ ' ' :: rest) =
      before ++ Token.scan (position + front.length) (' ' :: rest) := by
  induction scans generalizing before with
  | done =>
      rcases List.nil_eq_append_iff.mp split with ⟨rfl, _⟩
      exact ⟨[], List.nil_prefix, fun rest => rfl⟩
  | @blank position c chars tokens blank further ih =>
      rcases ih split with ⟨front, cut, reads⟩
      refine ⟨c :: front, List.cons_prefix_cons.mpr ⟨rfl, cut⟩, ?_⟩
      intro rest
      rw [List.cons_append, Token.scan_blank blank, reads rest, List.length_cons, Nat.add_assoc,
        Nat.add_comm 1]
  | @token token chars tokens proper ends further ih =>
      cases before with
      | nil => exact ⟨[], List.nil_prefix, fun rest => rfl⟩
      | cons first before =>
          rcases List.cons.inj split with ⟨rfl, later⟩
          rcases ih later with ⟨front, cut, reads⟩
          refine ⟨token.text.toList ++ front, (List.prefix_append_right_inj _).mpr cut, ?_⟩
          intro rest
          have stillEnds : token.lexeme.EndsAt (front ++ ' ' :: rest) := by
            intro runs c next
            cases front with
            | nil => exact token.lexeme.endsAt_of_blank (by decide) rest runs c next
            | cons head front =>
                rcases cut with ⟨remaining, rfl⟩
                exact ends runs c next
          rw [List.append_assoc, Token.scan_token proper stillEnds, reads rest, List.cons_append,
            List.length_append, String.length_toList, Token.stop, Nat.add_assoc]

end Scans

theorem Token.ofChar?_of_mem_tokenize {text : String} {token : Token} (member : token ∈ tokenize text) :
    ∀ c ∈ token.text.toList, TokenKind.ofChar? c = some token.kind :=
  ((scans_tokenize text).proper token member).ofKind

theorem tokenize_eq_nil_iff {text : String} :
    tokenize text = [] ↔ ∀ c ∈ text.toList, isBlank c = true :=
  (scans_tokenize text).eq_nil_iff

/-- The tokens stand in the text one after the other, each at its position and made of characters of its
kind, of one where the kind makes no runs. They cover all characters but the blanks, and two tokens of a
kind that makes runs do not touch. -/
theorem tokenize_lossless (text : String) :
    (tokenize text).Pairwise (fun one other =>
        one.position < other.position ∧ one.stop ≤ other.position) ∧
      (∀ token ∈ tokenize text,
        token.text ≠ "" ∧
        (text.toList.drop token.position).take token.text.length = token.text.toList ∧
        (∀ c ∈ token.text.toList, token.kind.Admits c) ∧
        (token.kind ∈ [.opening, .closing, .invalid] → token.text.length = 1)) ∧
      (∀ (i : Nat) (c : Char), text.toList[i]? = some c →
        ((∀ token ∈ tokenize text, ¬ (token.position ≤ i ∧ i < token.stop)) ↔ isBlank c = true)) ∧
      ∀ one ∈ tokenize text, ∀ other ∈ tokenize text, one.kind = other.kind →
        one.kind ∈ [.and, .or, .not, .word] → one.stop ≠ other.position := by
  have scans := scans_tokenize text
  refine ⟨?_, ?_, ?_, ?_⟩
  · apply scans.pairwise_stop_le.imp_of_mem
    intro one other first _ order
    have width := scans.position_lt_stop one first
    exact ⟨by omega, order⟩
  · intro token member
    have proper := scans.proper token member
    rcases scans.exists_split token member with ⟨before, after, split, place⟩
    refine ⟨?_, ?_, ?_, ?_⟩
    · rintro empty
      have width : 0 < token.text.length := proper.text_length_pos
      simp [empty] at width
    · rw [split, place, Nat.zero_add, List.drop_left, ← String.length_toList, List.take_left]
    · intro c inside
      exact TokenKind.ofChar?_eq_some_iff.mp (proper.ofKind c inside)
    · intro single
      rw [← String.length_toList]
      apply proper.single
      show token.kind.runs = false
      simp only [List.mem_cons, List.not_mem_nil, or_false] at single
      rcases single with kind | kind | kind <;> rw [kind] <;> rfl
  · intro i c inside
    have covered := scans.covered_iff inside
    rw [Nat.zero_add] at covered
    rw [← Bool.not_eq_false, ← covered, not_exists]
    exact forall_congr' fun token => not_and.symm
  · intro one first other second same together meets
    have runs : one.kind.runs = true := by
      simp only [List.mem_cons, List.not_mem_nil, or_false] at together
      rcases together with kind | kind | kind | kind <;> rw [kind] <;> rfl
    exact scans.kind_ne_of_stop_eq one first other second runs meets same

theorem tokenize_lossless_of_example :
    let text := "x86 &, !! !(é)"
    let operator : Token := ⟨.and, "&,", 4⟩
    let even : Token := ⟨.not, "!!", 7⟩
    let odd : Token := ⟨.not, "!", 10⟩
    let letter : Token := ⟨.invalid, "é", 12⟩
    tokenize text = [⟨.word, "x86", 0⟩, operator, even, odd, ⟨.opening, "(", 11⟩, letter,
        ⟨.closing, ")", 13⟩] ∧
      (operator.text ≠ "" ∧
        (text.toList.drop operator.position).take operator.text.length = operator.text.toList ∧
        ∀ c ∈ operator.text.toList, operator.kind.Admits c) ∧
      letter.text.length = 1 ∧
      (text.toList[6]? = some ' ' ∧
        ((∀ token ∈ tokenize text, ¬ (token.position ≤ 6 ∧ 6 < token.stop)) ↔ isBlank ' ' = true)) ∧
      even.stop ≠ odd.position := by
  intro text operator even odd letter
  have cut : tokenize text = [⟨.word, "x86", 0⟩, operator, even, odd, ⟨.opening, "(", 11⟩, letter,
      ⟨.closing, ")", 13⟩] := by decide +kernel
  have operatorPresent : operator ∈ tokenize text := by
    rw [cut]
    decide
  have evenPresent : even ∈ tokenize text := by
    rw [cut]
    decide
  have oddPresent : odd ∈ tokenize text := by
    rw [cut]
    decide
  have letterPresent : letter ∈ tokenize text := by
    rw [cut]
    decide
  have space : text.toList[6]? = some ' ' := by decide +kernel
  rcases tokenize_lossless text with ⟨_, each, covered, apart⟩
  rcases each operator operatorPresent with ⟨nonempty, stands, admitted, _⟩
  exact ⟨cut, ⟨nonempty, stands, admitted⟩, (each letter letterPresent).2.2.2 (by decide),
    ⟨space, covered 6 ' ' space⟩, apart even evenPresent odd oddPresent rfl (by decide)⟩

end Variants
