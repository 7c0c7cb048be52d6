import Variants.Document.Yaml.Scalar

/-!
Tokens of a YAML text. Indentation opens and closes blocks, and a key that needs no mark of its own is
known only when its colon is reached, so the place of every possible key is kept until its line ends.
-/

namespace Variants.Yaml

inductive Token
  | versionDirective (major : Nat)
  | tagDirective (handle expansion : String)
  | otherDirective
  | documentStart
  | documentEnd
  | streamEnd
  | blockSequenceStart
  | blockMappingStart
  | blockEnd
  | flowSequenceStart
  | flowSequenceEnd
  | flowMappingStart
  | flowMappingEnd
  | blockEntry
  | flowEntry
  | key
  | value
  | alias (name : String)
  | anchor (name : String)
  | tag (handle : Option String) (suffix : String)
  | scalar (text : String) (plain : Bool)
  deriving DecidableEq, Repr

/-- A place at which a key may start; a required one must turn out to be a key. -/
structure PossibleKey where
  tokens : Nat
  required : Bool
  index : Nat
  line : Nat
  column : Nat

structure Scanner where
  cursor : Cursor
  tokens : Array Token := #[]
  flow : Nat := 0
  indent : Int := -1
  outer : List Int := []
  keyAllowed : Bool := true
  possible : List (Nat × PossibleKey) := []

abbrev Scan := StateT Scanner (Except Problem)

namespace Scan

def unreadable {α : Type} : Scan α :=
  throw .unreadable

def emit (token : Token) : Scan Unit :=
  modify fun s => { s with tokens := s.tokens.push token }

def moveTo (cursor : Cursor) : Scan Unit :=
  modify fun s => { s with cursor }

def allowKey (allowed : Bool) : Scan Unit :=
  modify fun s => { s with keyAllowed := allowed }

def emitNext (token : Token) (length : Nat) : Scan Unit := do
  moveTo ((← get).cursor.forward length)
  emit token

def staleAt (c : Cursor) (key : PossibleKey) : Bool :=
  key.line != c.line || c.index - key.index > 1024

/-- Forgets the possible keys that have not met their colon on their line. -/
def dropStale : Scan Unit := do
  let s ← get
  if s.possible.any fun (_, key) => staleAt s.cursor key && key.required then unreadable
  set { s with possible := s.possible.filter fun (_, key) => !staleAt s.cursor key }

def dropPossible : Scan Unit := do
  let s ← get
  if ((s.possible.lookup s.flow).map (·.required)).getD false then unreadable
  set { s with possible := s.possible.filter (·.1 != s.flow) }

def savePossible : Scan Unit := do
  if (← get).keyAllowed then
    dropPossible
    let s ← get
    let key : PossibleKey := {
      tokens := s.tokens.size
      required := s.flow == 0 && s.indent == (s.cursor.column : Int)
      index := s.cursor.index
      line := s.cursor.line
      column := s.cursor.column }
    set { s with possible := (s.flow, key) :: s.possible }

def closeBlocks (column : Int) : (indent : Int) → (outer : List Int) → (tokens : Array Token) →
    Int × List Int × Array Token
  | indent, [], tokens => (indent, [], tokens)
  | indent, next :: outer, tokens =>
    if column < indent then closeBlocks column next outer (tokens.push .blockEnd)
    else (indent, next :: outer, tokens)

def unwind (column : Int) : Scan Unit :=
  modify fun s =>
    if s.flow = 0 then
      let (indent, outer, tokens) := closeBlocks column s.indent s.outer s.tokens
      { s with indent, outer, tokens }
    else s

def openBlock (token : Token) (column place : Nat) : Scan Unit :=
  modify fun s =>
    if s.indent < (column : Int) then
      { s with
        indent := column
        outer := s.indent :: s.outer
        tokens := s.tokens.insertIdxIfInBounds place token }
    else s

def skipToToken : (fuel : Nat) → Scan Unit
  | 0 => pure ()
  | fuel + 1 => do
    let c := (← get).cursor.skipSpaces.skipComment
    moveTo c
    match c.lineBreak with
    | ([], _) => pure ()
    | (_, after) =>
      moveTo after
      if (← get).flow = 0 then allowKey true
      skipToToken fuel

def isNameChar (c : Char) : Bool :=
  c.isAlphanum || c == '-' || c == '_'

def name (c : Cursor) : Except Problem (String × Cursor) :=
  match c.takeWhile isNameChar with
  | ([], _) => .error .unreadable
  | (taken, after) => .ok (String.ofList taken, after)

def directiveNumber (c : Cursor) : Except Problem (Nat × Cursor) :=
  match c.takeWhile Char.isDigit with
  | ([], _) => .error .unreadable
  | (digits, after) => .ok (digits.foldl (fun n d => 10 * n + (d.toNat - 48)) 0, after)

def tagHandle (c : Cursor) : Except Problem (String × Cursor) := do
  if c.peek ≠ some '!' then throw .unreadable
  if c.peekAt 1 == some ' ' then return ("!", c.step)
  let (middle, after) := c.step.takeWhile isNameChar
  if after.peek ≠ some '!' then throw .unreadable
  return (String.ofList ('!' :: middle ++ ['!']), after.step)

def isUriChar (c : Char) : Bool :=
  c.isAlphanum || "-;/?:@&=+$,_.!~*'()[]%".toList.contains c

def uriBytes : (fuel : Nat) → Cursor → Except Problem (List UInt8 × Cursor)
  | 0, c => .ok ([], c)
  | fuel + 1, c => do
    if c.peek ≠ some '%' then return ([], c)
    let digits := c.step.rest.take 2
    if digits.length < 2 then throw .unreadable
    let some byte := hexNumber? digits | throw .unreadable
    let (bytes, after) ← uriBytes fuel (c.forward 3)
    return (UInt8.ofNat byte :: bytes, after)

def uriPieces : (fuel : Nat) → Cursor → Except Problem (List Char × Cursor)
  | 0, c => .ok ([], c)
  | fuel + 1, c => do
    let some first := c.peek | return ([], c)
    if !isUriChar first then return ([], c)
    let (piece, after) ←
      if first == '%' then do
        let (bytes, after) ← uriBytes c.rest.length c
        let some text := String.fromUTF8? (ByteArray.mk bytes.toArray) | throw .unreadable
        pure (text.toList, after)
      else pure ([first], c.step)
    let (more, rest) ← uriPieces fuel after
    return (piece ++ more, rest)

def uri (c : Cursor) : Except Problem (String × Cursor) := do
  if !c.peek.any isUriChar then throw .unreadable
  let (text, after) ← uriPieces c.rest.length c
  return (String.ofList text, after)

def versionDirective (c : Cursor) : Except Problem (Token × Cursor) := do
  let (major, c) ← directiveNumber c.skipSpaces
  if c.peek ≠ some '.' then throw .unreadable
  let (_, c) ← directiveNumber c.step
  if endsLineOrSpace c.peek then return (.versionDirective major, c) else throw .unreadable

def tagDirective (c : Cursor) : Except Problem (Token × Cursor) := do
  let (handle, c) ← tagHandle c.skipSpaces
  if c.peek ≠ some ' ' then throw .unreadable
  let (expansion, c) ← uri c.skipSpaces
  if endsLineOrSpace c.peek then return (.tagDirective handle expansion, c) else throw .unreadable

def directive (c : Cursor) : Except Problem (Token × Cursor) := do
  let (word, c) ← name c.step
  if !endsLineOrSpace c.peek then throw .unreadable
  let (token, c) ←
    if word == "YAML" then versionDirective c
    else if word == "TAG" then tagDirective c
    else pure (.otherDirective, c.skipWhile (!isBreak ·))
  return (token, ← c.finishLine)

def anchorName (c : Cursor) : Except Problem (String × Cursor) := do
  let (word, after) ← name c.step
  if endsWord after.peek || after.peek.any fun d => "?:,]\x7d%@\x60".toList.contains d then
    return (word, after)
  else throw .unreadable

def hasHandle (text : List Char) : Bool :=
  (text.takeWhile fun d => !(d == ' ' || isBreak d)).contains '!'

def tag (c : Cursor) : Except Problem (Token × Cursor) := do
  let (token, after) ←
    match c.peekAt 1 with
    | some '<' => do
      let (suffix, after) ← uri (c.forward 2)
      if after.peek ≠ some '>' then throw .unreadable
      pure (Token.tag none suffix, after.step)
    | next =>
      if endsWord next then pure (Token.tag none "!", c.step)
      else do
        let (handle, after) ← if hasHandle c.step.rest then tagHandle c else pure ("!", c.step)
        let (suffix, after) ← uri after
        pure (Token.tag (some handle) suffix, after)
  if endsLineOrSpace after.peek then return (token, after) else throw .unreadable

def fetchEnd : Scan Unit := do
  unwind (-1)
  dropPossible
  modify fun s => { s with keyAllowed := false, possible := [] }
  emit .streamEnd

def resetLine : Scan Unit := do
  unwind (-1)
  dropPossible
  allowKey false

def fetchFlowStart (token : Token) : Scan Unit := do
  savePossible
  modify fun s => { s with flow := s.flow + 1, keyAllowed := true }
  emitNext token 1

def fetchFlowEnd (token : Token) : Scan Unit := do
  dropPossible
  modify fun s => { s with flow := s.flow - 1, keyAllowed := false }
  emitNext token 1

def fetchFlowEntry : Scan Unit := do
  allowKey true
  dropPossible
  emitNext .flowEntry 1

/-- Outside of brackets a mark of a block must stand where a key could; it opens the block. -/
def startBlock (token : Token) : Scan Unit := do
  let s ← get
  if s.flow = 0 then
    if !s.keyAllowed then unreadable
    openBlock token s.cursor.column s.tokens.size

def fetchBlockEntry : Scan Unit := do
  startBlock .blockSequenceStart
  allowKey true
  dropPossible
  emitNext .blockEntry 1

def fetchKey : Scan Unit := do
  startBlock .blockMappingStart
  allowKey ((← get).flow = 0)
  dropPossible
  emitNext .key 1

def fetchValue : Scan Unit := do
  let s ← get
  match s.possible.lookup s.flow with
  | some key =>
    set { s with
      possible := s.possible.filter (·.1 != s.flow)
      tokens := s.tokens.insertIdxIfInBounds key.tokens .key }
    if s.flow = 0 then openBlock .blockMappingStart key.column key.tokens
    allowKey false
  | none =>
    startBlock .blockMappingStart
    allowKey (s.flow = 0)
    dropPossible
  emitNext .value 1

def fetchNode (read : Cursor → Except Problem (Token × Cursor)) : Scan Unit := do
  savePossible
  allowKey false
  let (token, after) ← read (← get).cursor
  moveTo after
  emit token

def fetchAnchor (make : String → Token) : Scan Unit :=
  fetchNode fun c => do
    let (word, after) ← anchorName c
    return (make word, after)

def fetchQuoted (double : Bool) : Scan Unit :=
  fetchNode fun c => do
    let (text, after) ← quotedScalar double c.rest.length c.step
    return (.scalar (String.ofList text) false, after)

def fetchBlockScalar (fold : Bool) : Scan Unit := do
  allowKey true
  dropPossible
  let s ← get
  let (text, after) ← blockScalar fold s.indent s.cursor.step
  moveTo after
  emit (.scalar (String.ofList text) false)

def fetchPlain : Scan Unit := do
  savePossible
  let s ← get
  let plain := plainScalar (s.flow != 0) (s.indent + 1) (s.cursor.rest.length + 1) [] s.cursor
  moveTo plain.after
  allowKey plain.endsAtBreak
  emit (.scalar (String.ofList plain.text) true)

def startsPlain (flow : Bool) (c : Cursor) (first : Char) : Bool :=
  !(isBlankOrBreak first || "-?:,[]\x7b\x7d#&*!|>'\"%@\x60".toList.contains first) ||
    (!endsWord (c.peekAt 1) && (first == '-' || (!flow && (first == '?' || first == ':'))))

def fetchMarked (first : Char) : Scan Unit := do
  let s ← get
  let c := s.cursor
  let flow := s.flow != 0
  let alone := endsWord (c.peekAt 1)
  match first with
  | '[' => fetchFlowStart .flowSequenceStart
  | '\x7b' => fetchFlowStart .flowMappingStart
  | ']' => fetchFlowEnd .flowSequenceEnd
  | '\x7d' => fetchFlowEnd .flowMappingEnd
  | ',' => fetchFlowEntry
  | '*' => fetchAnchor .alias
  | '&' => fetchAnchor .anchor
  | '!' => fetchNode tag
  | '\'' => fetchQuoted false
  | '"' => fetchQuoted true
  | _ =>
    if first == '-' && alone then fetchBlockEntry
    else if first == '?' && (flow || alone) then fetchKey
    else if first == ':' && (flow || alone) then fetchValue
    else if first == '|' && !flow then fetchBlockScalar false
    else if first == '>' && !flow then fetchBlockScalar true
    else if startsPlain flow c first then fetchPlain
    else unreadable

def fetchNext : Scan Bool := do
  skipToToken ((← get).cursor.rest.length + 1)
  dropStale
  unwind (← get).cursor.column
  let c := (← get).cursor
  match c.peek with
  | none =>
    fetchEnd
    return false
  | some first =>
    if first == '%' && c.column = 0 then
      resetLine
      let (token, after) ← directive c
      moveTo after
      emit token
    else if c.column = 0 && c.atSeparator then
      resetLine
      emitNext (if first == '-' then .documentStart else .documentEnd) 3
    else fetchMarked first
    return true

def fetchAll : (fuel : Nat) → Scan Unit
  | 0 => unreadable
  | fuel + 1 => do if ← fetchNext then fetchAll fuel

end Scan

def isAllowed (c : Char) : Bool :=
  let n := c.toNat
  n == 0x9 || n == 0xA || n == 0xD || (0x20 ≤ n && n ≤ 0x7E) || n == 0x85 ||
    (0xA0 ≤ n && n ≤ 0xFFFD) || 0x10000 ≤ n

def tokens (text : String) : Except Problem (List Token) := do
  let chars := text.toList
  if !chars.all isAllowed then throw .unreadable
  let start : Cursor := { rest := chars }
  let start := if start.peek == some '\uFEFF' then start.step else start
  let (_, s) ← (Scan.fetchAll (chars.length + 2)).run { cursor := start }
  return s.tokens.toList

end Variants.Yaml
