import Variants.Proofs.Condition.Reading
import Variants.Proofs.Condition.Rereading
import Variants.Proofs.Evaluation

/-!
Selections as texts. The text of a selection is what its combinations are written like as a disjunction of
conjunctions. In a plain registry it states a condition, which is true of the variants that the selection
accepts, and so the condition has that very selection again.
-/

namespace Variants

variable {registry : Registry}

namespace Term

structure JoinedBy (connective : Connective) (term : Term) : Prop where
  connective_eq : term.lead.connective = some connective
  plain : term.lead.negated = false

end Term

section

variable {script : Script} {variant : String → Option String}

theorem lexemesText_level {connective : Connective} {term : Term} {rest : List Term}
    (joined : ∀ other ∈ rest, other.JoinedBy connective) :
    lexemesText (term.lexemes registry script ++ levelLexemes registry script false rest) =
      (script.text connective).intercalate
        ((term :: rest).map fun other => lexemesText (other.lexemes registry script)) := by
  induction rest generalizing term with
  | nil => simp [levelLexemes]
  | cons next rest ih =>
      have nextJoined := joined next List.mem_cons_self
      have later : lexemesText (next.lexemes registry script ++ levelLexemes registry script false rest) =
          (script.text connective).intercalate
            ((next :: rest).map fun other => lexemesText (other.lexemes registry script)) :=
        ih fun other member => joined other (List.mem_cons_of_mem next member)
      have lead : script.lead false next.lead = [script.operator connective] := by
        simp [Script.lead, Lead.signs, nextJoined.connective_eq, nextJoined.plain]
      rw [levelLexemes, lead, List.singleton_append, lexemesText_append, lexemesText_cons, later,
        List.map_cons, List.map_cons, List.map_cons, String.intercalate_cons_cons, String.append_assoc]
      rfl

theorem lexemesText_levelLexemes {connective : Connective} {terms : List Term}
    (joined : ∀ term ∈ terms, term.JoinedBy connective) :
    lexemesText (levelLexemes registry script true terms) =
      (script.text connective).intercalate
        (terms.map fun term => lexemesText (term.lexemes registry script)) := by
  cases terms with
  | nil => rfl
  | cons first rest =>
      have firstJoined := joined first List.mem_cons_self
      have lead : script.lead true first.lead = [] := by
        simp [Script.lead, Lead.signs, firstJoined.plain]
      rw [levelLexemes, lead, List.nil_append]
      exact lexemesText_level fun other member => joined other (List.mem_cons_of_mem first member)

section

variable {α : Type} {items : List α} {make : α → Term} {truth : α → Bool}

theorem levelTruth?_map_and (joined : ∀ item ∈ items, (make item).JoinedBy .and)
    (truths : ∀ item ∈ items, (make item).truth? registry variant = some (truth item))
    (before : Option Bool) :
    levelTruth? registry variant before (items.map make) =
      some (before.getD true && items.all truth) := by
  induction items generalizing before with
  | nil => simp [levelTruth?]
  | cons first rest ih =>
      have connective := (joined first List.mem_cons_self).connective_eq
      have later := ih (fun item member => joined item (List.mem_cons_of_mem first member))
        (fun item member => truths item (List.mem_cons_of_mem first member))
      rw [List.map_cons, levelTruth?, truths first List.mem_cons_self]
      cases before with
      | none => simp [later]
      | some left => simp [later, connective, joinTruth, Bool.and_assoc]

theorem levelTruth?_map_or (joined : ∀ item ∈ items, (make item).JoinedBy .or)
    (truths : ∀ item ∈ items, (make item).truth? registry variant = some (truth item))
    (before : Bool) :
    levelTruth? registry variant (some before) (items.map make) = some (before || items.any truth) := by
  induction items generalizing before with
  | nil => simp [levelTruth?]
  | cons first rest ih =>
      have connective := (joined first List.mem_cons_self).connective_eq
      have later := ih (fun item member => joined item (List.mem_cons_of_mem first member))
        (fun item member => truths item (List.mem_cons_of_mem first member))
      rw [List.map_cons, levelTruth?, truths first List.mem_cons_self]
      simp [later, connective, joinTruth, Bool.or_assoc]

theorem levelTruth?_map_or_of_ne_nil (nonempty : items ≠ [])
    (joined : ∀ item ∈ items, (make item).JoinedBy .or)
    (truths : ∀ item ∈ items, (make item).truth? registry variant = some (truth item)) :
    levelTruth? registry variant none (items.map make) = some (items.any truth) := by
  rcases List.exists_cons_of_ne_nil nonempty with ⟨first, rest, rfl⟩
  have later := levelTruth?_map_or (fun item member => joined item (List.mem_cons_of_mem first member))
    (fun item member => truths item (List.mem_cons_of_mem first member)) (truth first)
  rw [List.map_cons, levelTruth?, truths first List.mem_cons_self]
  exact later

end

end

def Script.selection : Script where
  text connective :=
    match connective with
    | .and => ","
    | .or => "|"
  proper connective := by
    cases connective with
    | and => exact .of_all (by decide) (by decide) (by decide)
    | or => exact .of_all (by decide) (by decide) (by decide)

/-- A row says that a variant has all of its choices. -/
def rowTerms (row : Row) : List Term :=
  row.map (.word ⟨some .and, false, 0⟩)

theorem joinedBy_of_mem_rowTerms {row : Row} {term : Term} (member : term ∈ rowTerms row) :
    term.JoinedBy .and := by
  rcases List.mem_map.mp member with ⟨choice, _, rfl⟩
  exact ⟨rfl, rfl⟩

namespace Combinations

def terms (table : Combinations) : List Term :=
  table.rows.map fun row => .group ⟨some .or, false, 0⟩ (rowTerms row)

variable {table : Combinations}

theorem joinedBy_of_mem_terms {term : Term} (member : term ∈ table.terms) : term.JoinedBy .or := by
  rcases List.mem_map.mp member with ⟨row, _, rfl⟩
  exact ⟨rfl, rfl⟩

theorem Within.exists_declares {row : Row} (within : table.Within registry) (present : row ∈ table.rows) :
    ∃ chosen : String → String, table.pivots.map chosen = row ∧
      ∀ pivot ∈ table.pivots, registry.Declares pivot (chosen pivot) := by
  rcases exists_contains_of_mem present with ⟨chosen, rfl, contained⟩
  refine ⟨chosen, rfl, ?_⟩
  intro pivot member
  exact Registry.mem_domain.mp ((within_iff.mp within).2 chosen contained pivot member)

theorem Within.resolve?_eq_some (plain : registry.Plain) (within : table.Within registry) {row : Row}
    (present : row ∈ table.rows) {choice : String} (member : choice ∈ row) :
    ∃ pivot, registry.resolve? choice = some (pivot, choice) := by
  rcases within.exists_declares present with ⟨chosen, rfl, declares⟩
  rcases List.mem_map.mp member with ⟨pivot, isPivot, rfl⟩
  exact ⟨pivot, plain.resolve?_of_declares (declares pivot isPivot)⟩

theorem Reduced.row_ne_nil (reduced : table.Reduced registry) {row : Row} (present : row ∈ table.rows) :
    row ≠ [] := by
  have width := table.rows_width row present
  have proper := List.length_pos_iff.mpr reduced.proper
  rw [← List.length_pos_iff]
  omega

theorem lexemesText_row (plain : registry.Plain) (reduced : table.Reduced registry) {row : Row}
    (present : row ∈ table.rows) (lead : Lead) :
    lexemesText ((Term.group lead (rowTerms row)).lexemes registry .selection) = rowText row := by
  have written : ∀ choice ∈ row, lexemesText ((Term.word ⟨some .and, false, 0⟩ choice).lexemes registry
      .selection) = choice := by
    intro choice member
    rcases reduced.within.resolve?_eq_some plain present member with ⟨pivot, resolved⟩
    simp [Term.lexemes, Registry.written, resolved]
  have words : (rowTerms row).map (fun term => lexemesText (term.lexemes registry .selection)) = row := by
    rw [rowTerms, List.map_map]
    exact (List.map_congr_left written).trans row.map_id'
  have inner : lexemesText (levelLexemes registry .selection true (rowTerms row)) =
      ",".intercalate row := by
    rw [lexemesText_levelLexemes fun term => joinedBy_of_mem_rowTerms, words]
    rfl
  have filled : (rowTerms row).isEmpty = false := by
    simpa [rowTerms] using reduced.row_ne_nil present
  rw [Term.lexemes, filled, if_neg Bool.false_ne_true, lexemesText_cons, lexemesText_append, inner,
    lexemesText_cons, lexemesText_nil, String.append_empty, rowText, String.append_assoc]
  rfl

theorem lexemesText_terms (plain : registry.Plain) (reduced : table.Reduced registry) :
    lexemesText (levelLexemes registry .selection true table.terms) = table.text := by
  have rows : table.terms.map (fun term => lexemesText (term.lexemes registry .selection)) =
      table.rows.map rowText := by
    rw [terms, List.map_map]
    apply List.map_congr_left
    intro row present
    exact lexemesText_row plain reduced present _
  rw [lexemesText_levelLexemes fun term => joinedBy_of_mem_terms, rows]
  rfl

theorem truth?_row (plain : registry.Plain) (within : table.Within registry) {row : Row}
    (present : row ∈ table.rows) (variant : registry.Variant) :
    (Term.group ⟨some .or, false, 0⟩ (rowTerms row)).truth? registry variant.choice? =
      some (decide (table.pivots.map variant.chosen = row)) := by
  rcases within.exists_declares present with ⟨chosen, rfl, declares⟩
  have truths : ∀ pivot ∈ table.pivots, (Term.word ⟨some .and, false, 0⟩ (chosen pivot)).truth? registry
      variant.choice? = some (decide (variant.chosen pivot = chosen pivot)) := by
    intro pivot member
    have resolved := plain.resolve?_of_declares (declares pivot member)
    have has := variant.choice?_eq (within.known pivot member)
    simp [Term.truth?, wordTruth?, resolved, has, beq_eq_decide]
  have inner : levelTruth? registry variant.choice? none (rowTerms (table.pivots.map chosen)) =
      some (table.pivots.all fun pivot => decide (variant.chosen pivot = chosen pivot)) := by
    rw [rowTerms, List.map_map]
    exact levelTruth?_map_and (fun pivot _ => ⟨rfl, rfl⟩) truths none
  have agrees : (table.pivots.all fun pivot => decide (variant.chosen pivot = chosen pivot)) =
      decide (table.pivots.map variant.chosen = table.pivots.map chosen) := by
    rw [Bool.eq_iff_iff]
    simp
  rw [Term.truth?, inner, agrees]
  rfl

theorem levelTruth?_terms (plain : registry.Plain) (reduced : table.Reduced registry)
    (variant : registry.Variant) :
    levelTruth? registry variant.choice? none table.terms =
      some (decide (table.Contains variant.chosen)) := by
  have truths := fun row (present : row ∈ table.rows) =>
    truth?_row plain reduced.within present variant
  have disjunction := levelTruth?_map_or_of_ne_nil reduced.inhabited (fun _ _ => ⟨rfl, rfl⟩) truths
  have contained : (table.rows.any fun row => decide (table.pivots.map variant.chosen = row)) =
      decide (table.Contains variant.chosen) := by
    rw [Bool.eq_iff_iff, List.any_eq_true, decide_eq_true_iff, Contains]
    simp
  rw [terms, disjunction, contained]

theorem resolves_terms (plain : registry.Plain) (within : table.Within registry) :
    registry.unresolved? (levelWords table.terms) = none := by
  apply Registry.unresolved?_eq_none
  intro word member
  rcases mem_levelWords.mp member with ⟨term, present, inside⟩
  rcases List.mem_map.mp present with ⟨row, isRow, rfl⟩
  rcases mem_levelWords.mp inside with ⟨choiceTerm, inRow, isWord⟩
  rcases List.mem_map.mp inRow with ⟨choice, isChoice, rfl⟩
  obtain rfl := List.mem_singleton.mp isWord
  rcases within.resolve?_eq_some plain isRow isChoice with ⟨pivot, resolved⟩
  simp [Registry.unknown, resolved]

end Combinations

namespace Selection

/-- The terms that a selection is written as. -/
def terms : Selection → List Term
  | constant holds => [.word ⟨none, false, 0⟩ (if holds then "true" else "false")]
  | combinations table => table.terms

variable {selection : Selection}

theorem lexemesText_terms (plain : registry.Plain) (reduced : selection.Reduced registry) :
    lexemesText (levelLexemes registry .selection true selection.terms) = selection.text := by
  cases selection with
  | combinations table => exact Combinations.lexemesText_terms plain reduced
  | constant holds =>
      have written : registry.written (if holds then "true" else "false") =
          if holds then "true" else "false" := by
        cases holds with
        | false =>
            rw [Registry.written, if_neg Bool.false_ne_true, plain.never_free]
            rfl
        | true =>
            rw [Registry.written, if_pos rfl, plain.always_free]
            rfl
      simp [terms, levelLexemes, Term.lexemes, Script.lead, Lead.signs, Term.lead, written, text]

theorem resolves_terms (plain : registry.Plain) (reduced : selection.Reduced registry) :
    registry.unresolved? (levelWords selection.terms) = none := by
  cases selection with
  | combinations table => exact Combinations.resolves_terms plain reduced.within
  | constant holds =>
      apply Registry.unresolved?_eq_none
      intro word member
      obtain rfl := List.mem_singleton.mp member
      cases holds with
      | false => simp [Registry.unknown, isConstantWord]
      | true => simp [Registry.unknown, isConstantWord]

theorem levelTruth?_terms (plain : registry.Plain) (reduced : selection.Reduced registry)
    (variant : registry.Variant) :
    levelTruth? registry variant.choice? none selection.terms =
      some (decide (selection.Accepts variant.chosen)) := by
  cases selection with
  | combinations table => exact Combinations.levelTruth?_terms plain reduced variant
  | constant holds =>
      cases holds with
      | false => simp [terms, levelTruth?, Term.truth?, wordTruth?, plain.never_free]
      | true => simp [terms, levelTruth?, Term.truth?, wordTruth?, plain.always_free]

theorem Reduced.parse_text (plain : registry.Plain) (reduced : selection.Reduced registry) :
    ∃ written, Condition.parse registry (some selection.text) = .ok written ∧
      (written.evaluate registry).result = .ok selection := by
  have succeeds := Condition.failsWith_ofTerms registry none selection.terms
  rw [resolves_terms plain reduced] at succeeds
  rcases succeeds.exists_eq_ok with ⟨written, termsRead⟩
  have read := Condition.parse_written plain .selection termsRead
  rw [lexemesText_terms plain reduced] at read
  rcases Condition.evaluate_computes (Condition.declared_of_parse_eq_ok read) with
    ⟨other, result, otherReduced, means⟩
  refine ⟨written, read, ?_⟩
  -- Both selections are minimal, so it is enough that they accept the same variants.
  have same : other = selection := by
    rw [otherReduced.eq_iff reduced]
    intro variant
    have read : levelTruth? registry variant.choice? none selection.terms =
        some (written.holds variant.choice?) := Condition.levelTruth?_of_ofTerms_eq_ok termsRead
    rw [levelTruth?_terms plain reduced variant, Option.some.injEq] at read
    calc
      other.Accepts variant.chosen ↔ written.holds variant.choice? = true := means variant
      _ ↔ decide (selection.Accepts variant.chosen) = true := by rw [read]
      _ ↔ selection.Accepts variant.chosen := decide_eq_true_iff
  rw [result, same]

end Selection

/-- In a plain registry, the text of the selection of a condition states a condition with the same
selection. -/
theorem Condition.evaluate_parse_text (registry : Registry) (plain : registry.Plain)
    (condition : Condition) (declared : condition.Declared registry) :
    ∃ selection written, (condition.evaluate registry).result = .ok selection ∧
      Condition.parse registry (some selection.text) = .ok written ∧
      (written.evaluate registry).result = .ok selection := by
  rcases evaluate_computes declared with ⟨selection, result, reduced, _⟩
  rcases reduced.parse_text plain with ⟨written, read, again⟩
  exact ⟨selection, written, result, read, again⟩

theorem Condition.evaluate_parse_text_of_example :
    let condition := or (choice "Platform" "Win32" true)
      (and (choice "Configuration" "Debug" false) (choice "Linkage" "ltcg" false))
    condition.Declared Example.registry ∧
      ∃ selection written, (condition.evaluate Example.registry).result = .ok selection ∧
        Condition.parse Example.registry (some selection.text) = .ok written ∧
        (written.evaluate Example.registry).result = .ok selection :=
  ⟨by decide, evaluate_parse_text Example.registry Example.registry_plain _ (by decide)⟩

end Variants
