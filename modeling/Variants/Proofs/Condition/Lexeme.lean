import Variants.Proofs.Condition.Token

/-!
Lexemes: tokens without their places. Cutting a text passes over blanks and takes a lexeme off where it ends,
so a text that is put together from lexemes, of which no two neighbours run into each other, is cut into
the same lexemes again.
-/

namespace Variants

structure Lexeme where
  kind : TokenKind
  text : String
  deriving DecidableEq, Repr

def Token.lexeme (token : Token) : Lexeme := ⟨token.kind, token.text⟩

def lexemesText (lexemes : List Lexeme) : String :=
  String.join (lexemes.map (·.text))

@[simp]
theorem lexemesText_nil : lexemesText [] = "" := rfl

@[simp]
theorem lexemesText_cons (first : Lexeme) (rest : List Lexeme) :
    lexemesText (first :: rest) = first.text ++ lexemesText rest := by
  rw [lexemesText, List.map_cons, String.join_cons]
  rfl

theorem lexemesText_append (first second : List Lexeme) :
    lexemesText (first ++ second) = lexemesText first ++ lexemesText second := by
  rw [lexemesText, List.map_append, String.join_append]
  rfl

namespace Lexeme

/-- Some characters of one kind, and but one where the kind makes no runs. -/
structure Proper (lexeme : Lexeme) : Prop where
  nonempty : lexeme.text.toList ≠ []
  ofKind : ∀ c ∈ lexeme.text.toList, TokenKind.ofChar? c = some lexeme.kind
  single : lexeme.kind.runs = false → lexeme.text.toList.length = 1

/-- Lexemes that stay two when one stands right after the other. -/
def Apart (one other : Lexeme) : Prop :=
  one.kind.runs = true → one.kind ≠ other.kind

variable {lexeme one other : Lexeme}

theorem Proper.of_all (nonempty : lexeme.text.toList ≠ [])
    (all : lexeme.text.toList.all (TokenKind.ofChar? · == some lexeme.kind) = true)
    (single : lexeme.kind.runs = false → lexeme.text.toList.length = 1) : lexeme.Proper where
  nonempty := nonempty
  ofKind c inside := by simpa using List.all_eq_true.mp all c inside
  single := single

/-- What follows a lexeme does not make it longer. -/
def EndsAt (lexeme : Lexeme) (rest : List Char) : Prop :=
  lexeme.kind.runs = true → ∀ c ∈ rest.head?, TokenKind.ofChar? c ≠ some lexeme.kind

theorem Proper.text_length_pos (proper : lexeme.Proper) : 0 < lexeme.text.length := by
  rw [← String.length_toList]
  exact List.length_pos_of_ne_nil proper.nonempty

theorem Proper.ofChar?_head (proper : lexeme.Proper) (rest : List Char) :
    ∀ c ∈ (lexeme.text.toList ++ rest).head?, TokenKind.ofChar? c = some lexeme.kind := by
  intro c first
  rw [List.head?_append_of_ne_nil _ proper.nonempty] at first
  exact proper.ofKind c (List.mem_of_head? first)

theorem Proper.append {kind : TokenKind} {text more : String} (proper : Proper ⟨kind, text⟩)
    (runs : kind.runs = true) (moreProper : Proper ⟨kind, more⟩) : Proper ⟨kind, text ++ more⟩ where
  nonempty := by simp [proper.nonempty]
  ofKind c inside := by
    rw [String.toList_append] at inside
    rcases List.mem_append.mp inside with early | late
    · exact proper.ofKind c early
    · exact moreProper.ofKind c late
  single absurd := by
    rw [runs] at absurd
    contradiction

theorem Apart.endsAt (apart : one.Apart other) (proper : other.Proper) (rest : List Char) :
    one.EndsAt (other.text.toList ++ rest) := by
  intro runs c first same
  rw [proper.ofChar?_head rest c first, Option.some.injEq] at same
  exact apart runs same.symm

theorem endsAt_of_blank {c : Char} (blank : isBlank c = true) (lexeme : Lexeme) (rest : List Char) :
    lexeme.EndsAt (c :: rest) := by
  intro _ d next
  obtain rfl : c = d := Option.some.inj next
  rw [TokenKind.ofChar?_eq_none_iff.mpr blank]
  exact (Option.some_ne_none lexeme.kind).symm

end Lexeme

namespace Token

def stop (token : Token) : Nat :=
  token.position + token.text.length

def scan (position : Nat) (chars : List Char) : List Token :=
  ofRuns position (chars.splitBy TokenKind.joins)

theorem scan_gap {gap rest : List Char} (blank : ∀ c ∈ gap, isBlank c = true)
    (ends : ∀ c ∈ rest.head?, isBlank c = false) (position : Nat) :
    scan position (gap ++ rest) = scan (position + gap.length) rest := by
  cases gap with
  | nil => rfl
  | cons first gap =>
      have alike : ∀ c ∈ first :: gap, TokenKind.ofChar? c = none := by
        intro c inside
        exact TokenKind.ofChar?_eq_none_iff.mpr (blank c inside)
      have differs : ∀ c ∈ rest.head?, TokenKind.ofChar? c ≠ none := by
        intro c next same
        have space := TokenKind.ofChar?_eq_none_iff.mp same
        rw [ends c next] at space
        contradiction
      have kind : (first :: gap).head?.bind TokenKind.ofChar? = none := alike first List.mem_cons_self
      rw [scan, TokenKind.splitBy_run (List.cons_ne_nil _ _) alike (fun absurd => by contradiction)
        (fun _ => differs), ofRuns, kind]
      rfl

theorem scan_blanks {gap : List Char} (blank : ∀ c ∈ gap, isBlank c = true) (rest : List Char)
    (position : Nat) : scan position (gap ++ rest) = scan (position + gap.length) rest := by
  -- The blanks with which the rest begins belong to the same run.
  have more : ∀ c ∈ rest.takeWhile isBlank, isBlank c = true := by
    intro c inside
    exact List.all_eq_true.mp (List.all_takeWhile (l := rest)) c inside
  have ends : ∀ c ∈ (rest.dropWhile isBlank).head?, isBlank c = false := by
    intro c next
    have stopped := List.head?_dropWhile_not isBlank rest
    rw [Option.mem_def.mp next] at stopped
    exact stopped
  have together : ∀ c ∈ gap ++ rest.takeWhile isBlank, isBlank c = true := by
    intro c inside
    rcases List.mem_append.mp inside with early | late
    · exact blank c early
    · exact more c late
  calc
    scan position (gap ++ rest)
        = scan position ((gap ++ rest.takeWhile isBlank) ++ rest.dropWhile isBlank) := by
      rw [List.append_assoc, List.takeWhile_append_dropWhile]
    _ = scan (position + gap.length + (rest.takeWhile isBlank).length) (rest.dropWhile isBlank) := by
      rw [scan_gap together ends, List.length_append, Nat.add_assoc]
    _ = scan (position + gap.length) (rest.takeWhile isBlank ++ rest.dropWhile isBlank) :=
      (scan_gap more ends _).symm
    _ = scan (position + gap.length) rest := by rw [List.takeWhile_append_dropWhile]

theorem scan_token {token : Token} (proper : token.lexeme.Proper) {rest : List Char}
    (ends : token.lexeme.EndsAt rest) :
    scan token.position (token.text.toList ++ rest) = token :: scan token.stop rest := by
  have nonempty : token.text.toList ≠ [] := proper.nonempty
  have kind : token.text.toList.head?.bind TokenKind.ofChar? = some token.kind := by
    rw [List.head?_eq_some_head nonempty, Option.bind_some]
    exact proper.ofKind _ (List.head_mem nonempty)
  rw [scan, TokenKind.splitBy_run nonempty proper.ofKind proper.single ends, ofRuns, kind]
  simp only [String.ofList_toList, String.length_toList]
  rfl

theorem scan_char {c : Char} {kind : TokenKind} (found : TokenKind.ofChar? c = some kind)
    {rest : List Char} (ends : Lexeme.EndsAt ⟨kind, String.ofList [c]⟩ rest) (position : Nat) :
    scan position (c :: rest) = ⟨kind, String.ofList [c], position⟩ :: scan (position + 1) rest := by
  let token : Token := ⟨kind, String.ofList [c], position⟩
  have proper : token.lexeme.Proper := by
    refine ⟨by simp [token, lexeme], ?_, by simp [token, lexeme]⟩
    intro d inside
    rw [lexeme, String.toList_ofList, List.mem_singleton] at inside
    rw [inside]
    exact found
  have scanned : scan position (token.text.toList ++ rest) = token :: scan token.stop rest :=
    @scan_token token proper rest ends
  rw [String.toList_ofList, stop, String.length_ofList] at scanned
  exact scanned

end Token

theorem tokenize_eq_scan (text : String) : tokenize text = Token.scan 0 text.toList := rfl

/-- Lexemes that do not run into each other are read off the text that they make. -/
theorem lexemes_scan {lexemes : List Lexeme} (proper : ∀ lexeme ∈ lexemes, lexeme.Proper)
    (apart : lexemes.IsChain Lexeme.Apart) (position : Nat) :
    (Token.scan position (lexemesText lexemes).toList).map Token.lexeme = lexemes := by
  induction lexemes generalizing position with
  | nil => rfl
  | cons first rest ih =>
      rcases List.forall_mem_cons.mp proper with ⟨firstProper, restProper⟩
      rcases List.isChain_cons.mp apart with ⟨firstApart, restApart⟩
      have ends : first.EndsAt (lexemesText rest).toList := by
        cases rest with
        | nil => exact fun _ c next => by contradiction
        | cons second rest =>
            have secondProper := restProper second List.mem_cons_self
            rw [lexemesText_cons, String.toList_append]
            exact (firstApart second rfl).endsAt secondProper _
      let token : Token := ⟨first.kind, first.text, position⟩
      have scanned : Token.scan position (first.text.toList ++ (lexemesText rest).toList) =
          token :: Token.scan token.stop (lexemesText rest).toList :=
        @Token.scan_token token firstProper _ ends
      rw [lexemesText_cons, String.toList_append, scanned, List.map_cons, ih restProper restApart]
      rfl

theorem lexemes_tokenize {lexemes : List Lexeme} (proper : ∀ lexeme ∈ lexemes, lexeme.Proper)
    (apart : lexemes.IsChain Lexeme.Apart) :
    (tokenize (lexemesText lexemes)).map Token.lexeme = lexemes :=
  lexemes_scan proper apart 0

end Variants
