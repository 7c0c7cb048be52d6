import Variants.Proofs.Selection.Projection
import Variants.Selection.Evaluation

/-!
Evaluation with every check made on the way: each table is built through the checked constructor, each
look-up in an assignment, a row or the registry may miss, no number is divided by nothing, and simplification
has one round for each pivot. On well-formed tables no check fails but that of a pivot in the registry.
-/

namespace Variants

open Std (TreeMap TreeSet)

/-- Why a step fails when nothing is taken for granted. -/
inductive StepError
  | lookup (cause : Error)
  | selection (cause : SelectionError)
  | place
  | division
  | rounds
  deriving DecidableEq, Repr

namespace Assignment

def rowChecked (assignment : Assignment) (pivots : List String) : Except StepError Row :=
  (Selection.choicesOf (assignment.lookup ·) pivots).mapError .selection

end Assignment

def present {α : Type} : Option α → Except StepError α
  | some a => .ok a
  | none => .error .place

namespace Combinations

def checked (pivots : List String) (rows : List Row) : Except StepError Combinations :=
  ((Selection.make? none pivots rows).map Selection.toCombinations).mapError .selection

def buildChecked (pivots : List String) (assignments : List Assignment) :
    Except StepError Combinations := do
  let rows ← assignments.mapM (·.rowChecked (ascending pivots))
  checked (ascending pivots) rows

def semiJoinChecked (narrow wide : Combinations) : Except StepError Combinations := do
  let places ← narrow.pivots.mapM fun pivot => present (wide.pivots.idxOf? pivot)
  let keyed ← wide.rows.mapM fun row => do
    let key ← places.mapM fun place => present row[place]?
    return (key, row)
  let accepted := TreeSet.ofList narrow.rows
  checked wide.pivots ((keyed.filter fun entry => accepted.contains entry.1).map (·.2))

def crossJoinChecked (left right : Combinations) : Except StepError Combinations :=
  buildChecked (left.pivots ++ right.pivots)
    (left.assignments.flatMap fun first => right.assignments.map fun second => second ++ first)

def groupsChecked (pivots : List String) (assignments : List Assignment) :
    Except StepError (TreeMap Row (List Assignment)) :=
  assignments.foldlM (fun groups assignment => do
    let key ← assignment.rowChecked pivots
    return groups.insert key (groups.getD key [] ++ [assignment])) {}

def groupedJoinChecked (shared : List String) (left right : Combinations) :
    Except StepError Combinations := do
  let byShared ← groupsChecked shared left.assignments
  let joined ← right.assignments.mapM fun second => do
    let key ← second.rowChecked shared
    return (byShared.getD key []).map fun first => second ++ first
  buildChecked (left.pivots ++ right.pivots) joined.flatten

def joinOrderedChecked (left right : Combinations) : Except StepError Combinations :=
  let shared := left.pivots.filter right.pivots.contains
  if left.pivots.all right.pivots.contains then semiJoinChecked left right
  else if shared.isEmpty then crossJoinChecked left right
  else groupedJoinChecked shared left right

def intersectChecked (left right : Combinations) : Except StepError Combinations :=
  if left.pivots.length > right.pivots.length then joinOrderedChecked right left
  else joinOrderedChecked left right

def unionChecked (registry : Registry) (left right : Combinations) : Except StepError Combinations := do
  let pivots := left.pivots ++ right.pivots
  let first ← (left.expand registry pivots).mapError .lookup
  let second ← (right.expand registry pivots).mapError .lookup
  buildChecked pivots (first ++ second)

def dropAtChecked (table : Combinations) (index size : Nat) : Except StepError (Option Combinations) :=
  if size = 0 then .error .division
  else
    match reduceAt? table.rows index size with
    | none => .ok none
    | some reduced => (checked (table.pivots.eraseIdx index) reduced).map some

def dropOneChecked (table : Combinations) (sizes : List Nat) : Except StepError (Option Combinations) :=
  sizes.zipIdx.findSomeM? fun (size, index) => table.dropAtChecked index size

def simplifyWithin (registry : Registry) : (rounds : Nat) → Combinations → Except StepError Selection
  | 0, _ => .error .rounds
  | rounds + 1, table =>
    if table.rows.isEmpty then .ok (.constant false)
    else do
      let sizes ← (table.sizes registry).mapError .lookup
      if table.rows.length = sizes.foldr (· * ·) 1 then return .constant true
      match ← table.dropOneChecked sizes with
      | none => return .combinations table
      | some smaller => simplifyWithin registry rounds smaller

def simplifyChecked (registry : Registry) (table : Combinations) : Except StepError Selection :=
  simplifyWithin registry (table.pivots.length + 1) table

end Combinations

namespace Selection

def ofChoiceChecked (registry : Registry) (pivot choice : String) (inverted : Bool) :
    Except StepError Selection := do
  let chosen ←
    if inverted then ((registry.choices pivot).map (·.filter (· != choice))).mapError .lookup
    else pure [choice]
  (← Combinations.checked [pivot] (chosen.map ([·]))).simplifyChecked registry

def bothChecked (registry : Registry) (left right : Selection) : Except StepError Selection :=
  if left = constant false ∨ right = constant true then .ok left
  else if right = constant false ∨ left = constant true then .ok right
  else do (← left.toCombinations.intersectChecked right.toCombinations).simplifyChecked registry

def eitherChecked (registry : Registry) (left right : Selection) : Except StepError Selection :=
  if left = constant true ∨ right = constant false then .ok left
  else if right = constant true ∨ left = constant false then .ok right
  else do (← left.toCombinations.unionChecked registry right.toCombinations).simplifyChecked registry

end Selection

namespace Assignment

def Covers (assignment : Assignment) (pivots : List String) : Prop :=
  ∀ pivot ∈ pivots, assignment.lookup pivot ≠ none

theorem Covers.mono {assignment : Assignment} {pivots fewer : List String} (covers : assignment.Covers pivots)
    (inside : fewer ⊆ pivots) : assignment.Covers fewer :=
  fun pivot member => covers pivot (inside member)

theorem covers_ofChosen (pivots : List String) (chosen : String → String) :
    (ofChosen pivots chosen).Covers pivots := by
  intro pivot member
  rw [lookup_ofChosen, if_pos member]
  exact Option.some_ne_none _

theorem Covers.append {first second : Assignment} {pivots others : List String}
    (covers : first.Covers pivots) (coversToo : second.Covers others) :
    (first ++ second).Covers (pivots ++ others) := by
  intro pivot member
  rw [List.lookup_append, ne_eq, Option.or_eq_none_iff, not_and_or]
  exact (List.mem_append.mp member).imp (covers pivot) (coversToo pivot)

theorem rowChecked_eq_ok {assignment : Assignment} {pivots : List String} (covers : assignment.Covers pivots) :
    assignment.rowChecked pivots = .ok (assignment.row pivots) := by
  have each : ∀ pivot ∈ pivots, assignment.lookup pivot = some (assignment.chosen pivot) := by
    intro pivot member
    obtain ⟨choice, found⟩ := Option.ne_none_iff_exists'.mp (covers pivot member)
    rw [Assignment.chosen, found, Option.getD_some]
  rw [rowChecked, Selection.choicesOf_eq_ok each]
  rfl

end Assignment

namespace Combinations

theorem covers_of_mem_assignments {table : Combinations} {assignment : Assignment}
    (member : assignment ∈ table.assignments) : assignment.Covers table.pivots := by
  obtain ⟨chosen, _, rfl⟩ := mem_assignments_iff.mp member
  exact Assignment.covers_ofChosen table.pivots chosen

theorem covers_append_of_mem {left right : Combinations} {first second : Assignment}
    (inLeft : first ∈ left.assignments) (inRight : second ∈ right.assignments) :
    (second ++ first).Covers (left.pivots ++ right.pivots) :=
  ((covers_of_mem_assignments inRight).append (covers_of_mem_assignments inLeft)).mono
    List.perm_append_comm.subset

theorem checked_eq_ok {pivots : List String} {rows : List Row} (sorted : pivots.Pairwise (· < ·))
    (width : ∀ row ∈ rows, row.length = pivots.length) :
    checked pivots rows = .ok (ofRows pivots rows sorted width) := by
  rw [checked, Selection.make?, dif_pos sorted, dif_pos width]
  rfl

theorem checked_self (table : Combinations) : checked table.pivots table.rows = .ok table := by
  rw [checked_eq_ok table.pivots_ascending table.rows_width]
  exact congrArg Except.ok (eq_of_pivots_of_rows rfl (ascending_of_pairwise_lt table.rows_ascending))

theorem buildChecked_eq_ok {pivots : List String} {assignments : List Assignment}
    (covers : ∀ assignment ∈ assignments, assignment.Covers pivots) :
    buildChecked pivots assignments = .ok (ofAssignments pivots assignments) := by
  have rows : assignments.mapM (·.rowChecked (ascending pivots)) =
      .ok (assignments.map (Assignment.row · (ascending pivots))) := by
    apply Outcome.mapM_eq_ok_map
    intro assignment member
    exact Assignment.rowChecked_eq_ok ((covers assignment member).mono fun _ => mem_ascending.mp)
  rw [buildChecked, rows]
  exact checked_eq_ok (pairwise_ascending pivots) (by simp [Assignment.row])

theorem mapM_present_eq_ok {table : Combinations} {kept : List String} (inside : kept ⊆ table.pivots)
    {row : Row} (member : row ∈ table.rows) :
    ((kept.map (table.pivots.idxOf ·)).mapM fun place => present row[place]?) =
      .ok (Assignment.row (table.pivots.zip row) kept) := by
  obtain ⟨chosen, rfl, _⟩ := exists_contains_of_mem member
  rw [List.mapM_map]
  refine (Outcome.mapM_eq_ok_map fun pivot asked => ?_).trans
    (congrArg Except.ok (Row.restrict_map inside chosen).symm)
  rw [Function.comp_apply, List.getElem?_map, List.getElem?_idxOf (inside asked)]
  rfl

theorem semiJoinChecked_eq_ok {narrow wide : Combinations} (inside : narrow.pivots ⊆ wide.pivots) :
    semiJoinChecked narrow wide = .ok (semiJoin narrow wide) := by
  let key (row : Row) : Row := Assignment.row (wide.pivots.zip row) narrow.pivots
  have places : (narrow.pivots.mapM fun pivot => present (wide.pivots.idxOf? pivot)) =
      .ok (narrow.pivots.map (wide.pivots.idxOf ·)) := by
    apply Outcome.mapM_eq_ok_map
    intro pivot member
    have somewhere : wide.pivots.idxOf? pivot ≠ none :=
      fun nowhere => List.idxOf?_eq_none_iff.mp nowhere (inside member)
    obtain ⟨place, found⟩ := Option.ne_none_iff_exists'.mp somewhere
    rw [List.idxOf_eq_getD_idxOf?, found]
    rfl
  have keyed : (wide.rows.mapM fun row => do
        let key ← (narrow.pivots.map (wide.pivots.idxOf ·)).mapM fun place => present row[place]?
        return (key, row)) = (.ok (wide.rows.map fun row => (key row, row)) : Except StepError _) := by
    apply Outcome.mapM_eq_ok_map
    intro row member
    rw [mapM_present_eq_ok inside member]
    rfl
  have kept : (((wide.rows.map fun row => (key row, row)).filter fun entry =>
      (TreeSet.ofList narrow.rows).contains entry.1).map (·.2)) = (semiJoin narrow wide).rows := by
    rw [List.filter_map, List.map_map]
    exact List.map_id _
  refine Outcome.bind_eq_ok_iff.mpr ⟨_, places, Outcome.bind_eq_ok_iff.mpr ⟨_, keyed, ?_⟩⟩
  exact (congrArg (checked wide.pivots) kept).trans (checked_self (semiJoin narrow wide))

theorem crossJoinChecked_eq_ok (left right : Combinations) :
    crossJoinChecked left right = .ok (crossJoin left right) := by
  apply buildChecked_eq_ok
  intro assignment member
  obtain ⟨first, inLeft, joined⟩ := List.mem_flatMap.mp member
  obtain ⟨second, inRight, rfl⟩ := List.mem_map.mp joined
  exact covers_append_of_mem inLeft inRight

theorem groupsChecked_eq_ok {pivots : List String} {assignments : List Assignment}
    (covers : ∀ assignment ∈ assignments, assignment.Covers pivots) :
    groupsChecked pivots assignments = .ok (groups pivots assignments) := by
  apply Outcome.foldlM_eq_ok_foldl
  intro assignment member groups
  rw [Assignment.rowChecked_eq_ok (covers assignment member)]
  rfl

theorem groupedJoinChecked_eq_ok {shared : List String} {left right : Combinations}
    (inLeft : shared ⊆ left.pivots) (inRight : shared ⊆ right.pivots) :
    groupedJoinChecked shared left right = .ok (groupedJoin shared left right) := by
  let byShared := groups shared left.assignments
  let mates (second : Assignment) : List Assignment :=
    (byShared.getD (second.row shared) []).map fun first => second ++ first
  have grouped : groupsChecked shared left.assignments = .ok byShared :=
    groupsChecked_eq_ok fun _ member => (covers_of_mem_assignments member).mono inLeft
  have joined : (right.assignments.mapM fun second => do
        let key ← second.rowChecked shared
        return (byShared.getD key []).map fun first => second ++ first) =
      (.ok (right.assignments.map mates) : Except StepError _) := by
    apply Outcome.mapM_eq_ok_map
    intro second member
    rw [Assignment.rowChecked_eq_ok ((covers_of_mem_assignments member).mono inRight)]
    rfl
  refine Outcome.bind_eq_ok_iff.mpr ⟨_, grouped, Outcome.bind_eq_ok_iff.mpr ⟨_, joined, ?_⟩⟩
  rw [← List.flatMap_def]
  apply buildChecked_eq_ok
  intro assignment member
  obtain ⟨second, ofRight, mated⟩ := List.mem_flatMap.mp member
  obtain ⟨first, filed, rfl⟩ := List.mem_map.mp mated
  rw [getD_groups] at filed
  have ofLeft := (List.mem_filter.mp filed).1
  exact covers_append_of_mem ofLeft ofRight

theorem joinOrderedChecked_eq_ok (left right : Combinations) :
    joinOrderedChecked left right = .ok (joinOrdered left right) := by
  rw [joinOrderedChecked, joinOrdered]
  split
  · rename_i inside
    exact semiJoinChecked_eq_ok fun pivot member => by simpa using List.all_eq_true.mp inside pivot member
  · split
    · exact crossJoinChecked_eq_ok left right
    · apply groupedJoinChecked_eq_ok
      · exact List.filter_subset_self _
      · intro pivot member
        simpa using (List.mem_filter.mp member).2

theorem intersectChecked_eq_ok (left right : Combinations) :
    intersectChecked left right = .ok (left.intersect right) := by
  rw [intersectChecked, intersect]
  split
  · exact joinOrderedChecked_eq_ok right left
  · exact joinOrderedChecked_eq_ok left right

variable {registry : Registry}

theorem known_of_choices_eq_ok {pivot : String} {choices : List String}
    (found : registry.choices pivot = .ok choices) : pivot ∈ registry.names := by
  by_contra unknown
  rw [Registry.choices_eq_error unknown] at found
  contradiction

theorem expand_eq_widened {table : Combinations} {pivots : List String} {assignments : List Assignment}
    (expands : table.expand registry pivots = .ok assignments) :
    assignments = table.widened registry pivots := by
  obtain ⟨domains, looked, _⟩ := Outcome.bind_eq_ok_iff.mp expands
  have known : ∀ pivot ∈ table.missingPivots pivots, pivot ∈ registry.names := by
    intro pivot member
    obtain ⟨choices, found⟩ := Outcome.exists_of_mapM_eq_ok looked pivot member
    exact known_of_choices_eq_ok found
  rw [expand_eq_ok known] at expands
  exact (Except.ok.inj expands).symm

theorem sizes_eq_domainSizes {table : Combinations} {sizes : List Nat}
    (counted : table.sizes registry = .ok sizes) :
    (∀ pivot ∈ table.pivots, pivot ∈ registry.names) ∧ sizes = table.domainSizes registry := by
  have known : ∀ pivot ∈ table.pivots, pivot ∈ registry.names := by
    intro pivot member
    obtain ⟨size, found⟩ := Outcome.exists_of_mapM_eq_ok counted pivot member
    obtain ⟨choices, looked, _⟩ := Outcome.map_eq_ok_iff.mp found
    exact known_of_choices_eq_ok looked
  rw [sizes_eq_ok known] at counted
  exact ⟨known, (Except.ok.inj counted).symm⟩

theorem covers_of_mem_widened {table : Combinations} {pivots : List String} {assignment : Assignment}
    (inside : table.pivots ⊆ pivots) (member : assignment ∈ table.widened registry pivots) :
    assignment.Covers pivots := by
  obtain ⟨chosen, _, _, rfl⟩ := mem_widened_iff.mp member
  apply (Assignment.covers_ofChosen _ chosen).mono
  exact fun pivot asked => (mem_pivots_append_missingPivots (fun _ own => inside own) pivot).mpr asked

theorem unionChecked_eq (left right : Combinations) :
    unionChecked registry left right = (left.union registry right).mapError .lookup := by
  rw [unionChecked, union]
  cases first : left.expand registry (left.pivots ++ right.pivots) with
  | error cause => rfl
  | ok one =>
      cases second : right.expand registry (left.pivots ++ right.pivots) with
      | error cause => rfl
      | ok other =>
          refine buildChecked_eq_ok fun assignment member => ?_
          rw [expand_eq_widened first, expand_eq_widened second] at member
          rcases List.mem_append.mp member with inFirst | inSecond
          · exact covers_of_mem_widened (List.subset_append_left _ _) inFirst
          · exact covers_of_mem_widened (List.subset_append_right _ _) inSecond

theorem dropAtChecked_eq_ok {table : Combinations} {index size : Nat} (inside : index < table.pivots.length)
    (positive : 0 < size) : table.dropAtChecked index size = .ok (table.dropAt? index size) := by
  rw [dropAtChecked, if_neg (Nat.ne_of_gt positive), reduceAt?_eq_map_dropAt? inside]
  cases dropped : table.dropAt? index size with
  | none => rfl
  | some smaller =>
      obtain ⟨_, _, rfl⟩ := dropAt?_eq_some_iff_evenly.mp dropped
      exact congrArg (Except.map some) (checked_self (table.eraseAt index))

theorem dropOneChecked_eq_ok {table : Combinations} {sizes : List Nat}
    (counted : table.sizes registry = .ok sizes) :
    table.dropOneChecked sizes = .ok (table.dropOne? sizes) := by
  obtain ⟨known, rfl⟩ := sizes_eq_domainSizes counted
  apply Outcome.findSomeM?_eq_ok_findSome?
  intro entry member
  rcases entry with ⟨size, index⟩
  obtain ⟨inside, rfl⟩ := mem_zipIdx_domainSizes_iff.mp member
  exact dropAtChecked_eq_ok inside (Registry.domain_length_pos (known _ (List.getElem_mem inside)))

theorem simplifyWithin_succ {table : Combinations} {sizes : List Nat} (inhabited : ¬ table.rows.isEmpty = true)
    (counted : table.sizes registry = .ok sizes) (rounds : Nat) :
    simplifyWithin registry (rounds + 1) table =
      if table.rows.length = sizes.foldr (· * ·) 1 then .ok (.constant true)
      else
        match table.dropOne? sizes with
        | none => .ok (.combinations table)
        | some smaller => simplifyWithin registry rounds smaller := by
  rw [simplifyWithin, if_neg inhabited, counted]
  simp only [Except.mapError, bind, Except.bind, dropOneChecked_eq_ok counted]
  rfl

theorem simplifyWithin_eq {rounds : Nat} {table : Combinations} (enough : table.pivots.length ≤ rounds) :
    simplifyWithin registry (rounds + 1) table = (table.simplify registry).mapError .lookup := by
  fun_induction simplify registry table generalizing rounds with
  | case1 table empty =>
      rw [simplifyWithin, if_pos empty]
      rfl
  | case2 table inhabited cause fails =>
      rw [simplifyWithin, if_neg inhabited, fails]
      rfl
  | case3 table inhabited sizes counted full =>
      rw [simplifyWithin_succ inhabited counted, if_pos full]
      rfl
  | case4 table inhabited sizes counted fewer stays =>
      rw [simplifyWithin_succ inhabited counted, if_neg fewer, stays]
      rfl
  | case5 table inhabited sizes counted fewer smaller dropped ih =>
      have shorter := pivots_length_of_dropOne? dropped
      obtain ⟨left, rfl⟩ := Nat.exists_eq_add_one_of_ne_zero (n := rounds) (by omega)
      rw [simplifyWithin_succ inhabited counted, if_neg fewer, dropped]
      exact ih (by omega)

theorem simplifyChecked_eq (table : Combinations) :
    simplifyChecked registry table = (table.simplify registry).mapError .lookup :=
  simplifyWithin_eq (Nat.le_refl _)

end Combinations

namespace Selection

variable {registry : Registry}

theorem ofChoiceChecked_eq (pivot choice : String) (inverted : Bool) :
    ofChoiceChecked registry pivot choice inverted =
      (ofChoice registry pivot choice inverted).mapError .lookup := by
  have simplified (chosen : List String) :
      (do (← Combinations.checked [pivot] (chosen.map ([·]))).simplifyChecked registry) =
        ((Combinations.ofChoices pivot chosen).simplify registry).mapError .lookup := by
    rw [Combinations.checked_eq_ok (List.pairwise_singleton _ _) (by simp),
      ← Combinations.simplifyChecked_eq]
    rfl
  cases inverted with
  | false => exact simplified [choice]
  | true =>
      rw [ofChoiceChecked, if_pos rfl, ofChoice, if_pos rfl]
      cases registry.choices pivot with
      | error cause => rfl
      | ok domain => exact simplified (domain.filter (· != choice))

theorem bothChecked_eq (left right : Selection) :
    bothChecked registry left right = (both registry left right).mapError .lookup := by
  rw [bothChecked, both]
  split_ifs
  · rfl
  · rfl
  · rw [Combinations.intersectChecked_eq_ok, ← Combinations.simplifyChecked_eq]
    rfl

theorem eitherChecked_eq (left right : Selection) :
    eitherChecked registry left right = (either registry left right).mapError .lookup := by
  rw [eitherChecked, either, Combinations.unionChecked_eq]
  split_ifs
  · rfl
  · rfl
  · cases left.toCombinations.union registry right.toCombinations with
    | error cause => rfl
    | ok joined => exact Combinations.simplifyChecked_eq joined

end Selection

end Variants
