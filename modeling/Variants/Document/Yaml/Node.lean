import Variants.Document.Yaml.Plain
import Variants.Document.Yaml.Token

/-!
Nodes of a YAML document: scalars, sequences and mappings with their tags. Tokens are arranged into one
node; an alias stands for a copy of the node whose anchor it names.
-/

namespace Variants.Yaml

inductive Node
  | scalar (tag text : String)
  | sequence (tag : String) (items : List Node)
  | mapping (tag : String) (entries : List (Node × Node))
  deriving Repr, Inhabited

namespace Node

def standard : String := "tag:yaml.org,2002:"

def kindTag : ScalarKind → String
  | .null => standard ++ "null"
  | .bool => standard ++ "bool"
  | .int => standard ++ "int"
  | .float => standard ++ "float"
  | .timestamp => standard ++ "timestamp"
  | .merge => standard ++ "merge"
  | .default => standard ++ "value"
  | .text => standard ++ "str"

def empty : Node := .scalar (kindTag .null) ""

def tag : Node → String
  | scalar tag _ | sequence tag _ | mapping tag _ => tag

end Node

structure Arrangement where
  tokens : List Token
  handles : List (String × String) := []
  anchors : List (String × Node) := []
  reserved : List String := []

abbrev Arrange := StateT Arrangement Option

structure Properties where
  anchor : Option String := none
  tag : Option String := none

namespace Arrange

def next? : Arrange (Option Token) := do
  return (← get).tokens.head?

def skip : Arrange Unit :=
  modify fun s => { s with tokens := s.tokens.drop 1 }

def take (token : Token) : Arrange Bool := do
  if (← next?) == some token then
    skip
    return true
  else return false

def expect (token : Token) : Arrange Unit := do
  if !(← take token) then failure

def nextIsOneOf (tokens : List Token) : Arrange Bool := do
  return (← next?).any tokens.contains

def takeAnchor? : Arrange (Option String) := do
  match ← next? with
  | some (.anchor name) =>
    skip
    return some name
  | _ => return none

def takeTag? : Arrange (Option String) := do
  match ← next? with
  | some (.tag none suffix) =>
    skip
    return some suffix
  | some (.tag (some handle) suffix) =>
    skip
    match (← get).handles.lookup handle with
    | some expansion => return some (expansion ++ suffix)
    | none => failure
  | _ => return none

def properties : Arrange Properties := do
  match ← takeAnchor? with
  | some anchor => return { anchor := some anchor, tag := ← takeTag? }
  | none =>
    match ← takeTag? with
    | some tag => return { tag := some tag, anchor := ← takeAnchor? }
    | none => return {}

/-- An anchor may be given once; until its node is complete no alias may name it. -/
def reserve (p : Properties) : Arrange Unit := do
  match p.anchor with
  | none => return
  | some name =>
    let s ← get
    if s.reserved.contains name then failure
    set { s with reserved := name :: s.reserved }

def complete (p : Properties) (node : Node) : Arrange Node := do
  if let some name := p.anchor then
    modify fun s => { s with anchors := (name, node) :: s.anchors }
  return node

def scalarTag (tag : Option String) (text : String) (plain : Bool) : String :=
  match tag with
  | none => if plain then Node.kindTag (plainKind text.toList) else Node.kindTag .text
  | some "!" => Node.kindTag (plainKind text.toList)
  | some tag => tag

def collectionTag (tag : Option String) (kind : String) : String :=
  match tag with
  | none | some "!" => Node.standard ++ kind
  | some tag => tag

/-- A node without content, which has to have an anchor or a tag. -/
def emptyNode (p : Properties) : Arrange Node := do
  if p.anchor.isNone && p.tag.isNone then failure
  reserve p
  complete p (.scalar (scalarTag p.tag "" true) "")

/-- How much of the grammar of nodes a place allows. -/
inductive Place
  | flow
  | block
  | blockOrEntries
  deriving DecidableEq

mutual

def node : (fuel : Nat) → Place → Arrange Node
  | 0, _ => failure
  | fuel + 1, place => do
    if let some (.alias name) ← next? then
      skip
      match (← get).anchors.lookup name with
      | some node => return node
      | none => failure
    let p ← properties
    let sequenceTag := collectionTag p.tag "seq"
    let mappingTag := collectionTag p.tag "map"
    match ← next? with
    | some (.scalar text plain) =>
      skip
      reserve p
      complete p (.scalar (scalarTag p.tag text plain) text)
    | some .flowSequenceStart =>
      skip
      reserve p
      complete p (.sequence sequenceTag (← flowItems fuel true))
    | some .flowMappingStart =>
      skip
      reserve p
      complete p (.mapping mappingTag (← flowEntries fuel true))
    | some .blockEntry =>
      if place = .blockOrEntries then
        reserve p
        complete p (.sequence sequenceTag (← bareItems fuel))
      else emptyNode p
    | some .blockSequenceStart =>
      if place = .flow then emptyNode p
      else
        skip
        reserve p
        complete p (.sequence sequenceTag (← blockItems fuel))
    | some .blockMappingStart =>
      if place = .flow then emptyNode p
      else
        skip
        reserve p
        complete p (.mapping mappingTag (← blockEntries fuel))
    | _ => emptyNode p

def nodeUnless : (fuel : Nat) → Place → List Token → Arrange Node
  | 0, _, _ => failure
  | fuel + 1, place, ends => do
    if ← nextIsOneOf ends then return Node.empty else node fuel place

def blockItems : (fuel : Nat) → Arrange (List Node)
  | 0 => failure
  | fuel + 1 => do
    if ← take .blockEntry then
      let item ← nodeUnless fuel .block [.blockEntry, .blockEnd]
      return item :: (← blockItems fuel)
    expect .blockEnd
    return []

/-- Items that stand in a mapping without an indentation of their own. -/
def bareItems : (fuel : Nat) → Arrange (List Node)
  | 0 => failure
  | fuel + 1 => do
    if ← take .blockEntry then
      let item ← nodeUnless fuel .block [.blockEntry, .key, .value, .blockEnd]
      return item :: (← bareItems fuel)
    return []

def blockEntries : (fuel : Nat) → Arrange (List (Node × Node))
  | 0 => failure
  | fuel + 1 => do
    let ends : List Token := [.key, .value, .blockEnd]
    if ← take .key then
      let key ← nodeUnless fuel .blockOrEntries ends
      let item ← if ← take .value then nodeUnless fuel .blockOrEntries ends else pure Node.empty
      return (key, item) :: (← blockEntries fuel)
    expect .blockEnd
    return []

def flowItems : (fuel : Nat) → (first : Bool) → Arrange (List Node)
  | 0, _ => failure
  | fuel + 1, first => do
    if ← take .flowSequenceEnd then return []
    if !first then expect .flowEntry
    if ← take .key then
      let key ← nodeUnless fuel .flow [.value, .flowEntry, .flowSequenceEnd]
      let item ←
        if ← take .value then nodeUnless fuel .flow [.flowEntry, .flowSequenceEnd]
        else pure Node.empty
      let pair := Node.mapping (Node.standard ++ "map") [(key, item)]
      return pair :: (← flowItems fuel false)
    if ← take .flowSequenceEnd then return []
    let item ← node fuel .flow
    return item :: (← flowItems fuel false)

def flowEntries : (fuel : Nat) → (first : Bool) → Arrange (List (Node × Node))
  | 0, _ => failure
  | fuel + 1, first => do
    if ← take .flowMappingEnd then return []
    if !first then expect .flowEntry
    if ← take .key then
      let key ← nodeUnless fuel .flow [.value, .flowEntry, .flowMappingEnd]
      let item ←
        if ← take .value then nodeUnless fuel .flow [.flowEntry, .flowMappingEnd]
        else pure Node.empty
      return (key, item) :: (← flowEntries fuel false)
    if ← take .flowMappingEnd then return []
    let key ← node fuel .flow
    return (key, Node.empty) :: (← flowEntries fuel false)

end

def defaultHandles : List (String × String) :=
  [("!", "!"), ("!!", Node.standard)]

/-- The directives before a document; each handle may be given once, and so may the version. -/
def directives (versioned : Bool) (handles : List (String × String)) :
    List Token → Option (List (String × String) × List Token)
  | .versionDirective major :: rest =>
    if versioned || major != 1 then none else directives true handles rest
  | .tagDirective handle expansion :: rest =>
    if (handles.lookup handle).isSome then none
    else directives versioned ((handle, expansion) :: handles) rest
  | .otherDirective :: rest => directives versioned handles rest
  | rest => some (handles ++ defaultHandles, rest)

/-- The root of a document that starts with its mark: nothing stands for an empty node. -/
def markedRoot (fuel : Nat) : Arrange Node :=
  nodeUnless fuel .block
    [.otherDirective, .documentStart, .documentEnd, .streamEnd]

end Arrange

def isDirective : Token → Bool
  | .versionDirective _ | .tagDirective _ _ | .otherDirective => true
  | _ => false

def arrange (tokens : List Token) : Option (Option Node) := do
  let fuel := 4 * tokens.length + 8
  match tokens with
  | [.streamEnd] => return none
  | first :: _ =>
    let marked := isDirective first || first == .documentStart
    let (handles, rest) ←
      if marked then Arrange.directives false [] tokens else some (Arrange.defaultHandles, tokens)
    let rest ←
      if marked then
        match rest with
        | .documentStart :: rest => some rest
        | _ => none
      else some rest
    let root := if marked then Arrange.markedRoot fuel else Arrange.node fuel .block
    let (node, after) ← root.run { tokens := rest, handles }
    match after.tokens.dropWhile (· == .documentEnd) with
    | [.streamEnd] => return some node
    | _ => none
  | [] => none

end Variants.Yaml
