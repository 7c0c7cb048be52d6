import Variants.Proofs.Document.JsonText
import Variants.Proofs.Document.Simple

/-!
Writing JSON and reading it back. The text of a value is cut into lexemes that the reader takes for this
value, wherever it stands among other ones.
-/

namespace Variants.Json

def Lexes (text : List Char) (lexemes : List Lexeme) : Prop :=
  ∀ fuel, text.length ≤ fuel → lexFrom fuel text = some lexemes

def Cuts (text : List Char) (lexemes : List Lexeme) : Prop :=
  ∀ rest more, Lexes rest more → Lexes (text ++ rest) (lexemes ++ more)

theorem Cuts.nil : Cuts [] [] :=
  fun _ _ lexes => lexes

theorem Cuts.append {first second : List Char} {lexemes more : List Lexeme} (cuts : Cuts first lexemes)
    (moreCuts : Cuts second more) : Cuts (first ++ second) (lexemes ++ more) := by
  intro rest others lexes
  rw [List.append_assoc, List.append_assoc]
  exact cuts _ _ (moreCuts _ _ lexes)

theorem cuts_space : Cuts [' '] [] := by
  intro rest more lexes fuel enough
  cases fuel with
  | zero => simp at enough
  | succ fuel => exact lexes fuel (by simpa using enough)

theorem cuts_lexeme {c : Char} {text : List Char} {lexeme : Lexeme} (visible : isSpace c = false)
    (first : ∀ rest, lexeme? (c :: text ++ rest) = some (lexeme, rest)) : Cuts (c :: text) [lexeme] := by
  intro rest more lexes fuel enough
  cases fuel with
  | zero => simp at enough
  | succ fuel =>
      have left : rest.length ≤ fuel := by
        simp only [List.cons_append, List.length_cons, List.length_append] at enough
        omega
      have here := first rest
      rw [List.cons_append] at here ⊢
      rw [lexFrom, visible, here]
      simp only [Bool.false_eq_true, if_false]
      rw [Option.bind_eq_bind, Option.bind_some]
      dsimp only
      rw [lexes fuel left]
      rfl

/-- Lexemes that the reader takes for a value where one is expected. -/
def Reads (lexemes : List Lexeme) (value : Value) : Prop :=
  ∀ frames, lexemes.foldlM Reader.step ⟨frames, .value, .null⟩ = Reader.complete value frames ∧
    lexemes.foldlM Reader.step ⟨frames, .valueOrEnd, .null⟩ = Reader.complete value frames

/-- A text in which the reader finds a value, whatever follows. -/
def Spells (text : List Char) (value : Value) : Prop :=
  ∃ lexemes, Cuts text lexemes ∧ Reads lexemes value

theorem reads_scalar (value : Value) : Reads [.scalar value] value := by
  intro frames
  simp only [List.foldlM_cons, List.foldlM_nil, Reader.step]
  cases Reader.complete value frames <;> exact ⟨rfl, rfl⟩

theorem cuts_writtenText (s : String) : Cuts (writtenText s).toList [.scalar (.text s)] := by
  have first := lexeme?_writtenText s
  rw [writtenText, String.toList_ofList, List.cons_append] at first ⊢
  exact cuts_lexeme rfl first

theorem spells_writtenText (s : String) : Spells (writtenText s).toList (.text s) :=
  ⟨_, cuts_writtenText s, reads_scalar (.text s)⟩

theorem spells_null : Spells "null".toList .null :=
  ⟨_, cuts_lexeme rfl fun _ => rfl, reads_scalar .null⟩

theorem intercalate_cons (separator first : List Char) (rest : List (List Char)) :
    separator.intercalate (first :: rest) = first ++ rest.flatMap (separator ++ ·) := by
  induction rest generalizing first with
  | nil => simp [List.intercalate]
  | cons next others ih =>
      have split : separator.intercalate (first :: next :: others) =
          first ++ (separator ++ separator.intercalate (next :: others)) := by
        simp [List.intercalate]
      rw [split, ih, List.flatMap_cons, List.append_assoc]

theorem cuts_mark {mark : Char} {lexeme : Lexeme} (visible : isSpace mark = false)
    (first : ∀ rest, lexeme? (mark :: rest) = some (lexeme, rest)) : Cuts [mark] [lexeme] :=
  cuts_lexeme visible first

theorem cuts_comma : Cuts [',', ' '] [.comma] :=
  (cuts_mark rfl fun _ => rfl : Cuts [','] [.comma]).append cuts_space

theorem cuts_colon : Cuts [':', ' '] [.colon] :=
  (cuts_mark rfl fun _ => rfl : Cuts [':'] [.colon]).append cuts_space

theorem exists_reads_rest {α : Type} {f : α → List Char} {parts : List α}
    {stage : List α → List Frame → Reader}
    (each : ∀ part ∈ parts, ∃ lexemes, Cuts ([',', ' '] ++ f part) lexemes ∧ ∀ known outer,
      lexemes.foldlM Reader.step (stage known outer) = some (stage (part :: known) outer)) :
    ∃ lexemes, Cuts (parts.flatMap fun part => [',', ' '] ++ f part) lexemes ∧ ∀ known outer,
      lexemes.foldlM Reader.step (stage known outer) = some (stage (parts.reverse ++ known) outer) := by
  induction parts with
  | nil => exact ⟨[], .nil, fun _ _ => rfl⟩
  | cons part rest ih =>
      obtain ⟨⟨own, ownCuts, ownReads⟩, later⟩ := List.forall_mem_cons.mp each
      obtain ⟨others, othersCut, othersRead⟩ := ih later
      refine ⟨own ++ others, ?_, ?_⟩
      · rw [List.flatMap_cons]
        exact ownCuts.append othersCut
      · intro known outer
        have partRead := ownReads known outer
        have restRead := othersRead (part :: known) outer
        simp [partRead, restRead]

theorem exists_reads_item {f : Value → List Char} {item : Value} (spelled : Spells (f item) item) :
    ∃ lexemes, Cuts ([',', ' '] ++ f item) lexemes ∧ ∀ known outer,
      lexemes.foldlM Reader.step ⟨.list known :: outer, .commaOrEnd, .null⟩ =
        some ⟨.list (item :: known) :: outer, .commaOrEnd, .null⟩ := by
  obtain ⟨own, ownCuts, ownReads⟩ := spelled
  refine ⟨[.comma] ++ own, cuts_comma.append ownCuts, ?_⟩
  intro known outer
  have itemRead : own.foldlM Reader.step ⟨.list known :: outer, .value, .null⟩ =
      some ⟨.list (item :: known) :: outer, .commaOrEnd, .null⟩ := (ownReads _).1
  simp [Reader.step, itemRead]

theorem spells_list {f : Value → List Char} {items : List Value}
    (each : ∀ item ∈ items, Spells (f item) item) :
    Spells (['['] ++ [',', ' '].intercalate (items.map f) ++ [']']) (.list items) := by
  have opening : Cuts ['['] [.openList] := cuts_mark rfl fun _ => rfl
  have closing : Cuts [']'] [.closeList] := cuts_mark rfl fun _ => rfl
  cases items with
  | nil =>
      refine ⟨[.openList, .closeList], opening.append closing, ?_⟩
      intro frames
      simp [Reader.step]
  | cons first rest =>
      obtain ⟨⟨own, ownCuts, ownReads⟩, later⟩ := List.forall_mem_cons.mp each
      obtain ⟨others, othersCut, othersRead⟩ :=
        exists_reads_rest fun item member => exists_reads_item (later item member)
      refine ⟨[.openList] ++ (own ++ others) ++ [.closeList], ?_, ?_⟩
      · rw [List.map_cons, intercalate_cons, List.flatMap_map]
        exact (opening.append (ownCuts.append othersCut)).append closing
      · intro frames
        have firstRead : own.foldlM Reader.step ⟨.list [] :: frames, .valueOrEnd, .null⟩ =
            some ⟨.list [first] :: frames, .commaOrEnd, .null⟩ := (ownReads _).2
        have restRead := othersRead [first] frames
        simp [Reader.step, firstRead, restRead]

def entryText (f : Value → List Char) (entry : Value × Value) : List Char :=
  (writtenText (keyText entry.1)).toList ++ [':', ' '] ++ f entry.2

theorem exists_reads_entry {f : Value → List Char} {entry : Value × Value} {name : String}
    (named : entry.1 = .text name) (spelled : Spells (f entry.2) entry.2) :
    ∃ lexemes, Cuts (entryText f entry) lexemes ∧ ∀ known outer,
      lexemes.foldlM Reader.step ⟨.map known :: outer, .key, .null⟩ =
        some ⟨.map (entry :: known) :: outer, .commaOrEnd, .null⟩ ∧
      lexemes.foldlM Reader.step ⟨.map known :: outer, .keyOrEnd, .null⟩ =
        some ⟨.map (entry :: known) :: outer, .commaOrEnd, .null⟩ := by
  rcases entry with ⟨key, item⟩
  obtain ⟨own, ownCuts, ownReads⟩ := spelled
  cases named
  refine ⟨[.scalar (.text name)] ++ [.colon] ++ own, ?_, ?_⟩
  · exact ((cuts_writtenText name).append cuts_colon).append ownCuts
  · intro known outer
    have itemRead : own.foldlM Reader.step ⟨.entry known (.text name) :: outer, .value, .null⟩ =
        some ⟨.map ((.text name, item) :: known) :: outer, .commaOrEnd, .null⟩ := (ownReads _).1
    simp [Reader.step, itemRead]

theorem exists_reads_next_entry {f : Value → List Char} {entry : Value × Value} {name : String}
    (named : entry.1 = .text name) (spelled : Spells (f entry.2) entry.2) :
    ∃ lexemes, Cuts ([',', ' '] ++ entryText f entry) lexemes ∧ ∀ known outer,
      lexemes.foldlM Reader.step ⟨.map known :: outer, .commaOrEnd, .null⟩ =
        some ⟨.map (entry :: known) :: outer, .commaOrEnd, .null⟩ := by
  obtain ⟨own, ownCuts, ownReads⟩ := exists_reads_entry named spelled
  refine ⟨[.comma] ++ own, cuts_comma.append ownCuts, ?_⟩
  intro known outer
  have entryRead := (ownReads known outer).1
  simp [Reader.step, entryRead]

theorem spells_map {f : Value → List Char} {entries : Entries} (texts : entries.Texts)
    (distinct : (entries.map (·.1)).Nodup) (each : ∀ entry ∈ entries, Spells (f entry.2) entry.2) :
    Spells (['\x7b'] ++ [',', ' '].intercalate (entries.map (entryText f)) ++ ['\x7d']) (.map entries) := by
  have opening : Cuts ['\x7b'] [.openMap] := cuts_mark rfl fun _ => rfl
  have closing : Cuts ['\x7d'] [.closeMap] := cuts_mark rfl fun _ => rfl
  have kept := Entries.ofList_of_nodup texts distinct
  cases entries with
  | nil =>
      refine ⟨[.openMap, .closeMap], opening.append closing, ?_⟩
      intro frames
      simp [Reader.step]
  | cons first rest =>
      obtain ⟨⟨name, named⟩, otherTexts⟩ := List.forall_mem_cons.mp texts
      obtain ⟨here, later⟩ := List.forall_mem_cons.mp each
      obtain ⟨own, ownCuts, ownReads⟩ := exists_reads_entry named here
      obtain ⟨others, othersCut, othersRead⟩ := exists_reads_rest fun entry member =>
        (otherTexts entry member).elim fun _ named => exists_reads_next_entry named (later entry member)
      refine ⟨[.openMap] ++ (own ++ others) ++ [.closeMap], ?_, ?_⟩
      · rw [List.map_cons, intercalate_cons, List.flatMap_map]
        exact (opening.append (ownCuts.append othersCut)).append closing
      · intro frames
        have firstRead := (ownReads [] frames).2
        have restRead := othersRead [first] frames
        simp [Reader.step, firstRead, restRead, kept]

theorem writeAll_eq_map (items : List Value) : writeAll items = items.map write := by
  induction items with
  | nil => rfl
  | cons item rest ih => rw [writeAll, ih, List.map_cons]

theorem writeEntries_eq_map (entries : List (Value × Value)) :
    writeEntries entries =
      entries.map fun entry => writtenText (keyText entry.1) ++ ": " ++ write entry.2 := by
  induction entries with
  | nil => rfl
  | cons entry rest ih => rw [writeEntries, ih, List.map_cons]

/-- By induction on the value; its parts are read wherever they stand, so also inside of it. -/
theorem spells_write {value : Value} (simple : value.Simple) : Spells (write value).toList value := by
  induction simple with
  | null => exact spells_null
  | text s => exact spells_writtenText s
  | list each ih =>
      rw [write, writeAll_eq_map, String.toList_append, String.toList_append, String.toList_intercalate,
        List.map_map]
      exact spells_list ih
  | map texts distinct each ih =>
      have written := spells_map (f := fun item => (write item).toList) texts distinct ih
      have entry : (fun entry : Value × Value =>
          (writtenText (keyText entry.1) ++ ": " ++ write entry.2).toList) =
            entryText fun item => (write item).toList := by
        funext entry
        simp [entryText]
      rw [write, writeEntries_eq_map, String.toList_append, String.toList_append, String.toList_intercalate,
        List.map_map, Function.comp_def, entry]
      exact written

theorem read?_of_spells {text : String} {value : Value} (spelled : Spells text.toList value) :
    read? text = some value := by
  obtain ⟨lexemes, cuts, reads⟩ := spelled
  have cut : lex text.toList = some lexemes := by
    have whole := cuts [] [] (fun fuel _ => by cases fuel <;> rfl) text.toList.length (by simp)
    rwa [List.append_nil, List.append_nil] at whole
  rw [read?, cut, Option.bind_eq_bind, Option.bind_some, (reads []).1]
  rfl

theorem read?_write {value : Value} (simple : value.Simple) :
    ∃ text, write? value = some text ∧ read? text = some value := by
  refine ⟨write value, ?_, read?_of_spells (spells_write simple)⟩
  rw [write?, if_pos (isWritable_of_simple simple)]

end Variants.Json
