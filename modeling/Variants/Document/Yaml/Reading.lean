import Variants.Document.Value
import Variants.Document.Yaml.Node
import Variants.Text.Lowercase

/-!
Values of YAML documents. A tag decides how a node is read. Collections are read level by level from
the root, so of several faults the one nearest to the root counts, and the first of those.
-/

namespace Variants.Yaml

def withoutUnderscores (text : List Char) : List Char :=
  text.filter (· != '_')

def signed (text : List Char) : Except Problem (Bool × List Char) :=
  match text with
  | [] => .error .noCharacter
  | '-' :: rest => .ok (true, rest)
  | '+' :: rest => .ok (false, rest)
  | rest => .ok (false, rest)

def basePrefixes (base : Nat) : List (List Char) :=
  if base = 2 then [['0', 'b'], ['0', 'B']]
  else if base = 8 then [['0', 'o'], ['0', 'O']]
  else if base = 16 then [['0', 'x'], ['0', 'X']]
  else []

def digitIn? (base : Nat) (c : Char) : Option Nat :=
  ((digitValue? c).or (hexValue? c)).filter (· < base)

def naturalIn? (base : Nat) (text : List Char) : Option Nat :=
  let digits :=
    match (basePrefixes base).find? (·.isPrefixOf text) with
    | some mark => text.drop mark.length
    | none => text
  if digits.isEmpty then none
  else digits.foldlM (fun n c => (digitIn? base c).map (base * n + ·)) 0

def integerIn (base : Nat) (text : List Char) : Except Problem Int :=
  let (negative, digits) := Binary64.splitSign (Binary64.trimBlanks text)
  match naturalIn? base digits with
  | some n => .ok (if negative then -(n : Int) else n)
  | none =>
    .error (.badValue ("invalid literal for int() with base " ++ toString base ++ ": " ++
      quoted (String.ofList text)))

def integer (text : List Char) : Except Problem Int := do
  let (negative, digits) ← signed (withoutUnderscores text)
  let size ←
    match digits with
    | ['0'] => pure 0
    | '0' :: 'b' :: rest => integerIn 2 rest
    | '0' :: 'x' :: rest => integerIn 16 rest
    | '0' :: _ => integerIn 8 digits
    | [] => throw .noCharacter
    | _ =>
      if digits.contains ':' then do
        let parts ← (splitAt ':' digits).mapM (integerIn 10)
        pure (parts.foldl (fun n part => 60 * n + part) 0)
      else integerIn 10 digits
  return if negative then -size else size

def float (text : List Char) : Except Problem Binary64 :=
  match Binary64.ofText? text with
  | some x => .ok x
  | none =>
    .error (.badValue ("could not convert string to float: " ++ quoted (String.ofList text)))

/-- Parts in base sixty, summed from the last with rounding at every step. -/
def sexagesimal (parts : List Binary64) : Binary64 :=
  let (sum, _) := parts.reverse.foldl
    (fun (sum, base) part => (sum + part.toFloat * Float.ofNat base, 60 * base)) ((0.0 : Float), 1)
  .ofFloat sum

def number (text : List Char) : Except Problem Binary64 := do
  let small := (lowercase (String.ofList (withoutUnderscores text))).toList
  let (negative, digits) ← signed small
  if digits = ".inf".toList then return .infinity negative
  if digits = ".nan".toList then return .undefined
  let size ←
    if digits.contains ':' then do
      pure (sexagesimal (← (splitAt ':' digits).mapM float))
    else float digits
  return if negative then size.negate else size

def truth (text : String) : Except Problem Bool :=
  let word := lowercase text
  match truthWords.lookup word with
  | some value => .ok value
  | none => .error (.unknownWord word)

def naturalOf (digits : List Char) : Nat :=
  digits.foldl (fun n c => 10 * n + (c.toNat - 48)) 0

def microseconds (fraction : List Char) : Nat :=
  let kept := fraction.take 6
  naturalOf (kept ++ List.replicate (6 - kept.length) '0')

def stampOffset (stamp : Stamp) : Option Int :=
  match stamp.offset with
  | some (negative, hours, minutes) =>
    let size : Int := naturalOf hours * 60 + naturalOf minutes
    some (if negative then -size else size)
  | none => if stamp.universal then some 0 else none

def ofCalendar {α : Type} (result : Except CalendarError α) : Except Problem α :=
  result.mapError fun e => .badValue e.message

def timestamp (text : List Char) : Except Problem Value :=
  match stamp? text with
  | none => .error .noMatch
  | some stamp =>
    let year := naturalOf stamp.year
    let month := naturalOf stamp.month
    let day := naturalOf stamp.day
    match stamp.time with
    | none => (ofCalendar (Date.make? year month day)).map .date
    | some (hour, minute, second) =>
      (ofCalendar (Moment.make? year month day (naturalOf hour) (naturalOf minute)
        (naturalOf second) (microseconds stamp.fraction) (stampOffset stamp))).map .moment

def sixBits? (c : Char) : Option Nat :=
  if 'A' ≤ c ∧ c ≤ 'Z' then some (c.toNat - 65)
  else if 'a' ≤ c ∧ c ≤ 'z' then some (c.toNat - 71)
  else if c.isDigit then some (c.toNat + 4)
  else if c = '+' then some 62
  else if c = '/' then some 63
  else none

/-- The bytes of groups of four digits with six bits each, from the digits `held` of a group that has
begun. Other characters do not count; a mark ends the text where it fills a group. -/
def base64Bytes (held : List Nat) (marks : Nat) : List Char → Option (List UInt8)
  | [] => if held.isEmpty then some [] else none
  | c :: rest =>
    if c = '=' then
      if 2 ≤ held.length ∧ 4 ≤ held.length + marks + 1 then some []
      else base64Bytes held (if 2 ≤ held.length then marks + 1 else marks) rest
    else
      match sixBits? c with
      | none => base64Bytes held marks rest
      | some bits =>
        match held with
        | [] => base64Bytes [bits] 0 rest
        | [a] => (base64Bytes [a, bits] 0 rest).map (UInt8.ofNat (a * 4 + bits / 16) :: ·)
        | [a, b] => (base64Bytes [a, b, bits] 0 rest).map (UInt8.ofNat (b % 16 * 16 + bits / 4) :: ·)
        | _ :: _ :: b :: _ => (base64Bytes [] 0 rest).map (UInt8.ofNat (b % 4 * 64 + bits) :: ·)

def binary (text : List Char) : Except Problem Value :=
  if text.any fun c => 128 ≤ c.toNat then .error .unreadable
  else
    match base64Bytes [] 0 text with
    | some bytes => .ok (.bytes bytes)
    | none => .error .unreadable

def scalarReader? (kind : String) : Option (String → Except Problem Value) :=
  match kind with
  | "null" => some fun _ => .ok .null
  | "bool" => some fun text => (truth text).map .bool
  | "int" => some fun text => (integer text.toList).map .int
  | "float" => some fun text => (number text.toList).map .float
  | "binary" => some fun text => binary text.toList
  | "timestamp" => some fun text => timestamp text.toList
  | "str" => some fun text => .ok (.text text)
  | _ => none

def retagged : Node → Node
  | .scalar _ text => .scalar (Node.kindTag .text) text
  | .sequence _ items => .sequence (Node.kindTag .text) items
  | .mapping _ entries => .mapping (Node.kindTag .text) entries

mutual

def mergedEntries : Node → Option (List (Node × Node))
  | .mapping _ entries => (splitMerged entries).map fun (taken, own) => taken ++ own
  | _ => none

def splitMerged : List (Node × Node) → Option (List (Node × Node) × List (Node × Node))
  | [] => some ([], [])
  | (key, item) :: rest => do
    let (taken, own) ← splitMerged rest
    if key.tag == Node.kindTag .merge then
      let entries ← takenFrom item
      return (entries ++ taken, own)
    else if key.tag == Node.kindTag .default then return (taken, (retagged key, item) :: own)
    else return (taken, (key, item) :: own)

/-- What a mapping takes from another one, or from a list of them, of which the first counts most. -/
def takenFrom : Node → Option (List (Node × Node))
  | .mapping _ entries => (splitMerged entries).map fun (taken, own) => taken ++ own
  | .sequence _ items => (allMerged items).map fun lists => lists.reverse.flatten
  | .scalar _ _ => none

def allMerged : List Node → Option (List (List (Node × Node)))
  | [] => some []
  | item :: rest => do return (← mergedEntries item) :: (← allMerged rest)

end

/-- A value with the faults met while reading it, each with its distance from the root. -/
structure Outcome where
  value : Value
  faults : List (Nat × Problem) := []

def Outcome.fault (depth : Nat) (problem : Problem) : Outcome :=
  { value := .null, faults := [(depth, problem)] }

def isHashable : Value → Bool
  | .list _ | .map _ | .set _ => false
  | _ => true

def scalarText? : (fuel : Nat) → Node → Option String
  | _, .scalar _ text => some text
  | fuel + 1, .mapping _ entries =>
    match entries.find? fun (key, _) => key.tag == Node.kindTag .default with
    | some (_, item) => scalarText? fuel item
    | none => none
  | _, _ => none

def Node.height : Node → Nat
  | .scalar _ _ => 1
  | .sequence _ items => heights items + 1
  | .mapping _ entries => entryHeights entries + 1
where
  heights : List Node → Nat
    | [] => 0
    | item :: rest => max item.height (heights rest)
  entryHeights : List (Node × Node) → Nat
    | [] => 0
    | (key, item) :: rest => max (max key.height item.height) (entryHeights rest)

def entryOutcomes (depth : Nat) (read : Node → Outcome) (entries : List (Node × Node)) :
    List (Value × Value) × List (Nat × Problem) :=
  let outcomes := entries.map fun (key, item) => (read key, read item)
  (outcomes.map fun (key, item) => (key.value, item.value),
   outcomes.flatMap fun (key, item) =>
     key.faults ++ (if isHashable key.value then [] else [(depth, .unreadable)]) ++ item.faults)

def pairOutcomes (depth : Nat) (read : Node → Outcome) (items : List Node) : List Outcome :=
  items.map fun
    | .mapping _ [(key, item)] =>
      let first := read key
      let second := read item
      { value := .pair first.value second.value, faults := first.faults ++ second.faults }
    | _ => .fault depth .unreadable

def collectList (outcomes : List Outcome) : Outcome :=
  { value := .list (outcomes.map (·.value)), faults := outcomes.flatMap (·.faults) }

def readCollection (depth : Nat) (read : Node → Outcome) (kind : String) (node : Node) :
    Option Outcome :=
  let wrong := Outcome.fault depth .unreadable
  let mapped (make : List (Value × Value) → Value) : Outcome :=
    match mergedEntries node with
    | none => wrong
    | some entries =>
      let (read, faults) := entryOutcomes depth read entries
      { value := make (Entries.ofList read), faults }
  let listed (outcomes : List Node → List Outcome) : Outcome :=
    match node with
    | .sequence _ items => collectList (outcomes items)
    | _ => wrong
  match kind with
  | "seq" => some (listed (·.map read))
  | "map" => some (mapped .map)
  | "set" => some (mapped fun entries => .set (entries.map (·.1)))
  | "omap" | "pairs" => some (listed (pairOutcomes depth read))
  | _ => none

def readNode : (fuel depth : Nat) → Node → Outcome
  | 0, depth, _ => .fault depth .unreadable
  | fuel + 1, depth, node =>
    if !node.tag.startsWith Node.standard then .fault depth .unreadable
    else
      let kind := String.ofList (node.tag.toList.drop Node.standard.length)
      match scalarReader? kind with
      | some reader =>
        match scalarText? node.height node with
        | none => .fault depth .unreadable
        | some text =>
          match reader text with
          | .ok value => { value }
          | .error problem => .fault depth problem
      | none =>
        (readCollection (depth + 1) (readNode fuel (depth + 1)) kind node).getD
          (.fault depth .unreadable)

/-- The fault nearest to the root, the first of several. -/
def firstFault? (faults : List (Nat × Problem)) : Option Problem :=
  match faults with
  | [] => none
  | first :: rest =>
    some (rest.foldl (fun best fault => if fault.1 < best.1 then fault else best) first).2

/-- The value that a text writes; a text without a document writes null. -/
def read (text : String) : Except Problem Value := do
  let tokens ← tokens text
  match arrange tokens with
  | none => throw .unreadable
  | some none => return .null
  | some (some node) =>
    let outcome := readNode (node.height + 1) 0 node
    match firstFault? outcome.faults with
    | some problem => throw problem
    | none => return outcome.value

end Variants.Yaml
