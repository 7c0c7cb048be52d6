import Mathlib.Data.List.Nodup
import Variants.Proofs.Condition.Rereading
import Variants.Proofs.Template.Rendering

/-!
Build conditions are unambiguous. What is rendered as a build condition is a row of symbols. Where the keys
of the pivots can be told apart, and the choices of a pivot also in lowercase, no symbol begins like another
one, so the text tells the row, and a reader that keeps the levels it is inside of recovers the condition
from the row.
-/

namespace Variants

variable {Custom : Type} {registry : Registry}

namespace Registry

/-- No pivot is built in, every pivot has a key of its own, and the choices of a pivot are told apart by
their lowercase; keys and choices consist of the characters of words. -/
structure Keyed (registry : Registry) : Prop where
  compared : ∀ pivot ∈ registry.pivots, pivot.isBuiltIn = false
  keyInWord : ∀ pivot ∈ registry.pivots, ∀ c ∈ pivot.conditionKey.toText.toList,
    TokenKind.isWordChar c = true
  keyDistinct : ∀ pivot ∈ registry.pivots, ∀ other ∈ registry.pivots,
    pivot.conditionKey.toText = other.conditionKey.toText → pivot.name = other.name
  choiceInWord : ∀ pivot ∈ registry.pivots, ∀ choice ∈ pivot.choiceNames, ∀ c ∈ choice.toList,
    TokenKind.isWordChar c = true
  choiceDistinct : ∀ pivot ∈ registry.pivots, ∀ choice ∈ pivot.choiceNames,
    ∀ other ∈ pivot.choiceNames, lowercase choice = lowercase other → choice = other

/-- The condition of a choice, by the name of its pivot. -/
def comparison (registry : Registry) (pivot choice : String) : String :=
  (registry.get? pivot).elim "" (·.conditionText choice)

end Registry

namespace Example

def comparable : Registry :=
  match Registry.build [configuration, linkage, toolset] with
  | .ok registry => registry
  | .error _ => .empty

theorem comparable_keyed : comparable.Keyed where
  compared := by decide +kernel
  keyInWord := by
    have all : (comparable.pivots.all fun pivot =>
        pivot.conditionKey.toText.toList.all TokenKind.isWordChar) = true := by decide +kernel
    simpa only [List.all_eq_true] using all
  keyDistinct := by decide +kernel
  choiceInWord := by
    have all : (comparable.pivots.all fun pivot => pivot.choiceNames.all fun choice =>
        choice.toList.all TokenKind.isWordChar) = true := by decide +kernel
    simpa only [List.all_eq_true] using all
  choiceDistinct := by decide +kernel

end Example

theorem lowerFrom_of_isWordChar {text : List Char}
    (inWord : ∀ c ∈ text, TokenKind.isWordChar c = true) (before : List Char) :
    lowerFrom before text = text.map Char.toLower := by
  induction text generalizing before with
  | nil => rfl
  | cons c rest ih =>
      have isWord := inWord c List.mem_cons_self
      have bounds := TokenKind.toNat_bounds_of_isWordChar isWord
      have notSigma : c ≠ 'Σ' := TokenKind.ne_of_isWordChar isWord rfl
      have notDotted : c ≠ 'İ' := TokenKind.ne_of_isWordChar isWord rfl
      have small : lowerChar c = c.toLower := by
        rw [lowerChar, if_pos (by omega)]
      rw [lowerFrom, if_neg notSigma, if_neg notDotted, small,
        ih (fun d later => inWord d (List.mem_cons_of_mem c later))]
      rfl

theorem toLower_ne_quote {c : Char} (inWord : TokenKind.isWordChar c = true) : c.toLower ≠ '\'' := by
  have bounds := TokenKind.toNat_bounds_of_isWordChar inWord
  have among : ∀ code < 123, (Char.ofNat code).toLower = '\'' → Char.ofNat code = '\'' := by
    decide +kernel
  intro quote
  have isQuote := among c.toNat (by omega)
  rw [Char.ofNat_toNat] at isQuote
  exact TokenKind.ne_of_isWordChar inWord rfl (isQuote quote)

theorem quote_not_mem_lowercase {text : String}
    (inWord : ∀ c ∈ text.toList, TokenKind.isWordChar c = true) : '\'' ∉ (lowercase text).toList := by
  rw [lowercase, String.toList_ofList, lowerFrom_of_isWordChar inWord, List.mem_map]
  rintro ⟨c, inside, quote⟩
  exact toLower_ne_quote (inWord c inside) quote

theorem append_cons_inj_of_first {mark : Char} {one other after later : List Char} (free : mark ∉ one)
    (freeToo : mark ∉ other) (same : one ++ mark :: after = other ++ mark :: later) :
    one = other ∧ after = later := by
  have cut {text : List Char} (free : mark ∉ text) (rest : List Char) :
      (text ++ mark :: rest).takeWhile (· != mark) = text := by
    rw [List.takeWhile_append_of_pos, List.takeWhile_cons_of_neg, List.append_nil]
    · simp
    · intro c inside
      simpa using ne_of_mem_of_not_mem inside free
  have equal : one = other := by
    rw [← cut free after, same, cut freeToo]
  subst equal
  exact ⟨rfl, (List.cons.inj (List.append_cancel_left same)).2⟩

/-- The symbols that are no comparisons. -/
inductive Sign
  | negation
  | operator (connective : Connective)
  | opening
  | closing
  | constant (holds : Bool)
  deriving DecidableEq

def Sign.text : Sign → String
  | negation => "!"
  | operator .and => " And "
  | operator .or => " Or "
  | opening => "( "
  | closing => " )"
  | constant true => "true"
  | constant false => "false"

inductive Symbol (registry : Registry)
  | sign (sign : Sign)
  | comparison (pivot choice : String) (declared : registry.Declares pivot choice)

namespace Symbol

def text : Symbol registry → String
  | sign mark => mark.text
  | comparison pivot choice _ => registry.comparison pivot choice

end Symbol

def symbolsText (symbols : List (Symbol registry)) : String :=
  String.join (symbols.map (·.text))

theorem symbolsText_append (first second : List (Symbol registry)) :
    symbolsText (first ++ second) = symbolsText first ++ symbolsText second := by
  rw [symbolsText, List.map_append, String.join_append]
  rfl

theorem symbolsText_cons (symbol : Symbol registry) (rest : List (Symbol registry)) :
    symbolsText (symbol :: rest) = symbol.text ++ symbolsText rest := by
  rw [symbolsText, List.map_cons, String.join_cons]
  rfl

theorem symbolsText_singleton (symbol : Symbol registry) : symbolsText [symbol] = symbol.text := by
  rw [symbolsText_cons]
  exact String.append_empty

def Registry.symbol (registry : Registry) (word : String) : Symbol registry :=
  match resolved : registry.resolve? word with
  | some (pivot, choice) => .comparison pivot choice (Registry.declares_of_resolve?_eq_some resolved)
  | none => .sign (.constant (lowercase word == "true"))

def Lead.symbols (registry : Registry) (first : Bool) (lead : Lead) : List (Symbol registry) :=
  (if first then [] else [.sign (.operator (lead.connective.getD .or))]) ++
    if lead.negated then [.sign .negation] else []

section

variable (registry : Registry)

mutual

def Term.symbols : Term → List (Symbol registry)
  | .word _ word => [registry.symbol word]
  | .group _ terms =>
    if terms.isEmpty then [.sign (.constant true)]
    else .sign .opening :: (levelSymbols true terms ++ [.sign .closing])

def levelSymbols (first : Bool) : List Term → List (Symbol registry)
  | [] => []
  | term :: rest => term.lead.symbols registry first ++ (term.symbols ++ levelSymbols false rest)

end

end

namespace Registry

theorem symbol_of_resolve?_eq_some {word name choice : String}
    (resolves : registry.resolve? word = some (name, choice)) :
    registry.symbol word = .comparison name choice (declares_of_resolve?_eq_some resolves) := by
  rw [symbol]
  split
  · rename_i resolved
    cases resolves.symm.trans resolved
    rfl
  · rename_i unresolved
    rw [resolves] at unresolved
    contradiction

theorem symbol_of_resolve?_eq_none {word : String} (unresolved : registry.resolve? word = none) :
    registry.symbol word = .sign (.constant (lowercase word == "true")) := by
  rw [symbol]
  split
  · rename_i resolved
    rw [unresolved] at resolved
    contradiction
  · rfl

theorem comparison_of_lookup_eq_ok {name choice : String} {pivot : Pivot}
    (known : registry.lookup name = .ok pivot) :
    registry.comparison name choice = pivot.conditionText choice := by
  rw [lookup] at known
  split at known
  · rename_i found
    rw [comparison, found, Option.elim_some, Except.ok.inj known]
  · contradiction

end Registry

theorem lead_buildCondition (registry : Registry) (first : Bool) (lead : Lead) :
    (if first then (Template.buildCondition : Template Custom).opening lead
      else (Template.buildCondition : Template Custom).joint lead) =
        symbolsText (lead.symbols registry first) := by
  rcases lead with ⟨connective, negated, position⟩
  match first, connective, negated with
  | true, _, false | true, _, true => rfl
  | false, some .and, false | false, some .and, true => rfl
  | false, some .or, false | false, some .or, true => rfl
  | false, none, false | false, none, true => rfl

variable [AtomWriter Custom]

theorem renderWord_buildCondition {word : String} (resolves : registry.unresolved? [word] = none)
    (scope : String) :
    (renderWord registry (Template.buildCondition : Template Custom) scope word).result =
      .ok (registry.symbol word).text := by
  rw [renderWord]
  rcases Registry.written_cases resolves with ⟨name, choice, resolved, _⟩ | ⟨unresolved, _, constant⟩
  · rcases Registry.exists_lookup_eq_ok (Registry.declares_of_resolve?_eq_some resolved) with
      ⟨pivot, _, known, _⟩
    have written : (Template.buildCondition : Template Custom).atom.text scope choice pivot =
        .ok (pivot.conditionText choice) := rfl
    rw [Registry.symbol_of_resolve?_eq_some resolved, Symbol.text,
      Registry.comparison_of_lookup_eq_ok known]
    simp [resolved, Traced.mark, known, written, Except.bind]
  · have isConstant : isConstantWord word = true := by simpa [isConstantWord] using constant
    rw [Registry.symbol_of_resolve?_eq_none unresolved]
    rcases constant with isTrue | isFalse
    · simp [unresolved, isConstant, isTrue, Symbol.text, Sign.text]
    · simp [unresolved, isConstant, isFalse, Symbol.text, Sign.text]

theorem buildCondition_spells (registry : Registry) :
    (Template.buildCondition : Template Custom).Spells registry
      (fun term => symbolsText (term.symbols registry))
      (fun first terms => symbolsText (levelSymbols registry first terms)) where
  word lead word resolves scope := by
    rw [renderWord_buildCondition resolves, Term.symbols, symbolsText_singleton]
  empty lead := rfl
  group lead terms nonempty := by
    have grouped (text : String) : (Template.buildCondition : Template Custom).grouped text =
        .ok ("( " ++ text ++ " )") :=
      Template.grouped_slot ['(', ' '] [' ', ')'] rfl (by simp [Pattern.isBrace]) text
    rw [grouped, Term.symbols, if_neg (by rwa [List.isEmpty_iff]), symbolsText_cons, symbolsText_append,
      symbolsText_singleton, ← String.append_assoc]
    rfl
  nil first := rfl
  cons first term rest := by
    rw [lead_buildCondition registry, levelSymbols, symbolsText_append, symbolsText_append,
      String.append_assoc]

namespace Sign

def all : List Sign :=
  [.negation, .operator .and, .operator .or, .opening, .closing, .constant true, .constant false]

theorem mem_all (mark : Sign) : mark ∈ all := by
  rcases mark with _ | (_ | _) | _ | _ | (_ | _) <;> decide

theorem eq_of_isPrefix {one other : Sign} (begins : one.text.toList <+: other.text.toList) :
    one = other := by
  have apart : ∀ one ∈ all, ∀ other ∈ all, one.text.toList <+: other.text.toList → one = other := by
    decide +kernel
  exact apart one one.mem_all other other.mem_all begins

theorem text_ne_empty (mark : Sign) : mark.text ≠ "" := by
  rcases mark with _ | (_ | _) | _ | _ | (_ | _) <;> decide

theorem head?_append_ne_quote (mark : Sign) (after : List Char) :
    (mark.text.toList ++ after).head? ≠ some '\'' := by
  rcases mark with _ | (_ | _) | _ | _ | (_ | _) <;> simp [text]

theorem append_inj {one other : Sign} {after later : List Char}
    (same : one.text.toList ++ after = other.text.toList ++ later) : one = other ∧ after = later := by
  have equal : one = other := by
    have begins : one.text.toList <+: other.text.toList ++ later := ⟨after, same⟩
    rcases List.prefix_or_prefix_of_prefix begins (List.prefix_append _ _) with first | second
    · exact eq_of_isPrefix first
    · exact (eq_of_isPrefix second).symm
  subst equal
  exact ⟨rfl, List.append_cancel_left same⟩

end Sign

namespace Registry.Keyed

theorem exists_comparison_eq (keyed : registry.Keyed) {name choice : String}
    (declared : registry.Declares name choice) :
    ∃ pivot ∈ registry.pivots, pivot.name = name ∧ choice ∈ pivot.choiceNames ∧
      registry.comparison name choice =
        "'$(" ++ pivot.conditionKey.toText ++ ".ToLower())' == '" ++ lowercase choice ++ "'" := by
  rcases declared with ⟨pivot, present, named, member⟩
  refine ⟨pivot, present, named, member, ?_⟩
  rw [comparison, get?_eq_some_iff.mpr ⟨present, named⟩, Option.elim_some, Pivot.conditionText,
    keyed.compared pivot present]
  rfl

theorem comparison_append_inj (keyed : registry.Keyed) {pivot other choice another : String}
    (declared : registry.Declares pivot choice) (declaredToo : registry.Declares other another)
    {after later : List Char}
    (same : (registry.comparison pivot choice).toList ++ after =
      (registry.comparison other another).toList ++ later) :
    pivot = other ∧ choice = another ∧ after = later := by
  rcases keyed.exists_comparison_eq declared with ⟨one, present, rfl, member, written⟩
  rcases keyed.exists_comparison_eq declaredToo with ⟨two, presentToo, rfl, memberToo, writtenToo⟩
  have shape (key small : String) (rest : List Char) :
      ("'$(" ++ key ++ ".ToLower())' == '" ++ small ++ "'").toList ++ rest =
        "'$(".toList ++ (key.toList ++ '.' ::
          ("ToLower())' == '".toList ++ (small.toList ++ '\'' :: rest))) := by
    simp
  rw [written, writtenToo, shape, shape] at same
  have dotless {pivot : Pivot} (present : pivot ∈ registry.pivots) :
      '.' ∉ pivot.conditionKey.toText.toList := by
    intro inside
    exact TokenKind.ne_of_isWordChar (keyed.keyInWord pivot present '.' inside) rfl rfl
  have ⟨sameKey, following⟩ := append_cons_inj_of_first (dotless present) (dotless presentToo)
    (List.append_cancel_left same)
  have named := keyed.keyDistinct one present two presentToo (String.toList_inj.mp sameKey)
  obtain rfl := List.inj_on_of_nodup_map registry.names_distinct present presentToo named
  have ⟨sameChoice, rest⟩ := append_cons_inj_of_first
    (quote_not_mem_lowercase (keyed.choiceInWord one present choice member))
    (quote_not_mem_lowercase (keyed.choiceInWord one present another memberToo))
    (List.append_cancel_left following)
  exact ⟨rfl, keyed.choiceDistinct one present choice member another memberToo
    (String.toList_inj.mp sameChoice), rest⟩

theorem head?_comparison_append (keyed : registry.Keyed) {pivot choice : String}
    (declared : registry.Declares pivot choice) (after : List Char) :
    ((registry.comparison pivot choice).toList ++ after).head? = some '\'' := by
  rcases keyed.exists_comparison_eq declared with ⟨_, _, _, _, written⟩
  simp [written]

theorem text_append_inj (keyed : registry.Keyed) {one other : Symbol registry} {after later : List Char}
    (same : one.text.toList ++ after = other.text.toList ++ later) : one = other ∧ after = later := by
  cases one with
  | sign one =>
      cases other with
      | sign other =>
          rcases Sign.append_inj same with ⟨rfl, rest⟩
          exact ⟨rfl, rest⟩
      | comparison pivot choice declared =>
          have quoted := keyed.head?_comparison_append declared later
          exact absurd ((congrArg List.head? same).trans quoted) (one.head?_append_ne_quote after)
  | comparison pivot choice declared =>
      cases other with
      | sign other =>
          have quoted := keyed.head?_comparison_append declared after
          exact absurd ((congrArg List.head? same).symm.trans quoted) (other.head?_append_ne_quote later)
      | comparison other another declaredToo =>
          rcases keyed.comparison_append_inj declared declaredToo same with ⟨rfl, rfl, rest⟩
          exact ⟨rfl, rest⟩

theorem text_ne_empty (keyed : registry.Keyed) (symbol : Symbol registry) : symbol.text ≠ "" := by
  cases symbol with
  | sign mark => exact mark.text_ne_empty
  | comparison pivot choice declared =>
      intro empty
      have quoted := keyed.head?_comparison_append declared []
      rw [Symbol.text] at empty
      rw [empty] at quoted
      contradiction

/-- Rows of symbols are read off their texts, one symbol after the other. -/
theorem symbolsText_injective (keyed : registry.Keyed) :
    Function.Injective (symbolsText : List (Symbol registry) → String) := by
  intro symbols
  induction symbols with
  | nil =>
      intro others same
      cases others with
      | nil => rfl
      | cons other rest =>
          rw [symbolsText_cons] at same
          have empty := (String.append_eq_empty_iff.mp same.symm).1
          exact absurd empty (keyed.text_ne_empty other)
  | cons symbol rest ih =>
      intro others same
      cases others with
      | nil =>
          rw [symbolsText_cons] at same
          have empty := (String.append_eq_empty_iff.mp same).1
          exact absurd empty (keyed.text_ne_empty symbol)
      | cons other remaining =>
          have spelled := congrArg String.toList same
          rw [symbolsText_cons, symbolsText_cons, String.toList_append, String.toList_append] at spelled
          have ⟨first, later⟩ := keyed.text_append_inj spelled
          rw [first, ih (String.toList_inj.mp later)]

end Registry.Keyed

/-- A level that is being read: what it says so far, and what waits for its next operand. -/
structure Reading where
  said : Option Condition := none
  connective : Option Connective := none
  negated : Bool := false

namespace Reading

def close (level : Reading) : Condition :=
  level.said.getD .always

def push (level : Reading) (operand : Condition) : Reading :=
  let right := operand.negateIf level.negated
  { said := some (level.said.elim right (Condition.connect level.connective · right)) }

end Reading

/-- The innermost level, and outwards from it the levels around it. -/
structure Reader where
  level : Reading := {}
  outer : List Reading := []

namespace Reader

def push (reader : Reader) (operand : Condition) : Reader :=
  { reader with level := reader.level.push operand }

def step (reader : Reader) : Symbol registry → Reader
  | .sign .negation => { reader with level := { reader.level with negated := true } }
  | .sign (.operator connective) =>
    { reader with level := { reader.level with connective := some connective } }
  | .sign .opening => ⟨{}, reader.level :: reader.outer⟩
  | .sign .closing =>
    match reader.outer with
    | [] => reader
    | enclosing :: outer => ⟨enclosing.push reader.level.close, outer⟩
  | .sign (.constant holds) => reader.push (if holds then .always else .never)
  | .comparison pivot choice _ => reader.push (.choice pivot choice false)

def read (symbols : List (Symbol registry)) : Condition :=
  (symbols.foldl step {}).level.close

theorem step_symbol {word : String} {condition : Condition}
    (stated : Condition.ofWord registry word = .ok condition) (reader : Reader) :
    reader.step (registry.symbol word) = reader.push condition := by
  rcases Condition.ofWord_eq_ok_iff.mp stated with ⟨pivot, name, resolved, rfl⟩ | ⟨unresolved, constant⟩
  · rw [Registry.symbol_of_resolve?_eq_some resolved, step]
  · rw [Registry.symbol_of_resolve?_eq_none unresolved, step]
    rcases Condition.constant?_cases constant with ⟨isTrue, rfl⟩ | ⟨isFalse, rfl⟩
    · rw [isTrue]
      rfl
    · rw [isFalse]
      rfl

theorem foldl_lead (said : Option Condition) (outer : List Reading) (first : Bool) (lead : Lead) :
    (lead.symbols registry first).foldl step ⟨{ said }, outer⟩ =
      ⟨{ said
         connective := if first then none else some (lead.connective.getD .or)
         negated := lead.negated }, outer⟩ := by
  rcases lead with ⟨connective, negated, position⟩
  cases first with
  | true =>
      cases negated with
      | false => rfl
      | true => rfl
  | false =>
      cases negated with
      | false => rfl
      | true => rfl

mutual

theorem foldl_term {term : Term} {condition : Condition}
    (stated : Condition.ofTerm registry term = .ok condition) (said : Option Condition)
    (connective : Option Connective) (outer : List Reading) :
    (term.symbols registry).foldl step ⟨⟨said, connective, term.lead.negated⟩, outer⟩ =
      ⟨{ said := some (said.elim condition (Condition.connect connective · condition)) }, outer⟩ := by
  cases term with
  | word lead word =>
      rcases Condition.ofTerm_word_eq_ok_iff.mp stated with ⟨plain, wordStated, rfl⟩
      rw [Term.symbols, List.foldl_cons, List.foldl_nil, step_symbol wordStated]
      rfl
  | group lead terms =>
      rcases Condition.ofTerm_group_eq_ok_iff.mp stated with ⟨plain, termsStated, rfl⟩
      rw [Term.symbols]
      split
      · rename_i empty
        rw [List.isEmpty_iff.mp empty] at termsStated
        obtain rfl := Condition.ofTerms_nil_eq_ok_iff.mp termsStated
        rfl
      · let level : Reading := ⟨said, connective, lead.negated⟩
        obtain ⟨innerSaid, innerRead, rfl⟩ : ∃ innerSaid,
            (levelSymbols registry true terms).foldl step ⟨{}, level :: outer⟩ =
              ⟨{ said := innerSaid }, level :: outer⟩ ∧ innerSaid.getD .always = plain :=
          foldl_level termsStated (level :: outer)
        have opened : step ⟨level, outer⟩ (.sign .opening : Symbol registry) = ⟨{}, level :: outer⟩ := rfl
        rw [Term.lead, List.foldl_cons, opened, List.foldl_append, innerRead]
        rfl

theorem foldl_level {before : Option Condition} {terms : List Term} {condition : Condition}
    (stated : Condition.ofTerms registry before terms = .ok condition) (outer : List Reading) :
    ∃ said, (levelSymbols registry before.isNone terms).foldl step ⟨{ said := before }, outer⟩ =
      ⟨{ said }, outer⟩ ∧ said.getD .always = condition := by
  cases terms with
  | nil => exact ⟨before, rfl, Condition.ofTerms_nil_eq_ok_iff.mp stated⟩
  | cons term rest =>
      rcases Condition.ofTerms_cons_eq_ok_iff.mp stated with ⟨right, termStated, restStated⟩
      rw [levelSymbols, List.foldl_append, List.foldl_append, foldl_lead, foldl_term termStated]
      cases before with
      | none => exact foldl_level restStated outer
      | some left =>
          rw [Option.isNone_some, if_neg Bool.false_ne_true, Option.elim_some, Condition.connect_getD]
          exact foldl_level restStated outer

end

theorem read_levelSymbols {terms : List Term} {condition : Condition}
    (stated : Condition.ofTerms registry none terms = .ok condition) :
    read (levelSymbols registry true terms) = condition := by
  obtain ⟨said, result, same⟩ : ∃ said, (levelSymbols registry true terms).foldl step {} =
      ⟨{ said }, []⟩ ∧ said.getD .always = condition := foldl_level stated []
  rw [read, result]
  exact same

end Reader

/-- In a keyed registry, texts with the same build condition state the same condition. -/
theorem condition_eq_of_buildCondition_eq (registry : Registry)
    (keyed : registry.Keyed) (one other : Option String) (oneCondition otherCondition : Condition)
    (oneRead : Condition.parse registry one = .ok oneCondition)
    (otherRead : Condition.parse registry other = .ok otherCondition) :
    ∃ oneText otherText,
      (∀ scope, (render registry (Template.buildCondition : Template Custom) scope one).result =
        .ok oneText) ∧
      (∀ scope, (render registry (Template.buildCondition : Template Custom) scope other).result =
        .ok otherText) ∧
      (oneText = otherText → oneCondition = otherCondition) := by
  rcases exists_terms_of_parse_eq_ok (Template.buildCondition : Template Custom) oneRead with
    ⟨terms, stated, rendered⟩
  rcases exists_terms_of_parse_eq_ok (Template.buildCondition : Template Custom) otherRead with
    ⟨others, otherStated, otherRendered⟩
  have resolves := Condition.resolves_of_ofTerms_eq_ok stated
  have otherResolves := Condition.resolves_of_ofTerms_eq_ok otherStated
  refine ⟨symbolsText (levelSymbols registry true terms), symbolsText (levelSymbols registry true others),
    ?_, ?_, ?_⟩
  · intro scope
    rw [rendered, renderTerms_of_spells (buildCondition_spells registry) resolves]
  · intro scope
    rw [otherRendered, renderTerms_of_spells (buildCondition_spells registry) otherResolves]
  · intro same
    calc
      oneCondition = Reader.read (levelSymbols registry true terms) :=
        (Reader.read_levelSymbols stated).symm
      _ = Reader.read (levelSymbols registry true others) := by rw [keyed.symbolsText_injective same]
      _ = otherCondition := Reader.read_levelSymbols otherStated

theorem condition_eq_of_buildCondition_eq_of_example :
    let one := Condition.and (.choice "PlatformToolset" "v100" false)
      (.and (.choice "Configuration" "Debug" true) .never)
    let other := Condition.and
      (.and (.choice "PlatformToolset" "v100" false) (.choice "Configuration" "Debug" true)) .never
    Example.comparable.Keyed ∧
      Condition.parse Example.comparable (some "vs2010 & !(Debug | TRUE)") = .ok one ∧
      Condition.parse Example.comparable (some "v100 & !!!debug & False") = .ok other ∧
      ∃ oneText otherText,
        (∀ scope, (render Example.comparable (Template.buildCondition : Template) scope
          (some "vs2010 & !(Debug | TRUE)")).result = .ok oneText) ∧
        (∀ scope, (render Example.comparable (Template.buildCondition : Template) scope
          (some "v100 & !!!debug & False")).result = .ok otherText) ∧
        (oneText = otherText → one = other) := by
  intro one other
  have oneRead : Condition.parse Example.comparable (some "vs2010 & !(Debug | TRUE)") = .ok one := by
    apply Condition.parse_eq_ok_of_toOption
    decide +kernel
  have otherRead : Condition.parse Example.comparable (some "v100 & !!!debug & False") = .ok other := by
    apply Condition.parse_eq_ok_of_toOption
    decide +kernel
  exact ⟨Example.comparable_keyed, oneRead, otherRead,
    condition_eq_of_buildCondition_eq _ Example.comparable_keyed _ _ one other oneRead otherRead⟩

end Variants
