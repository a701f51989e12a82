import QueryPlayground.Yaml.Token

/-!
From a source to its tokens, one by one as they are asked for. A key is often known for a key only when its
colon is met, so a token that may begin a key is not handed out before that is decided. Tokens are only
appended; each has room in front of it for the marks that a key puts there.
-/
namespace QueryPlayground.Yaml

open Reading

/-- A token with the marks in front of it. -/
structure Slot where
  marks : List Token
  token : Token
  deriving DecidableEq, Repr

/-- A place where a key may have begun. -/
structure KeyPlace where
  slot : Nat
  required : Bool
  index : Nat
  line : Nat
  column : Nat
  deriving DecidableEq, Repr

/-- A key must be followed by its colon within this many characters. -/
def maxKeyLength : Nat := 1024

/-- How far a source has been taken apart. `taken` slots have been handed out and `pending` ones follow
them; `complete` tells that there will be no more. `keys` holds at most one place for each depth of flow
collections, `outer` the columns of the block collections around the one at column `indent`. -/
structure Scan where
  cursor : Cursor
  taken : Nat
  pending : List Slot
  complete : Bool
  depth : Nat
  indent : Int
  outer : List Int
  keyAllowed : Bool
  keys : List (Nat × KeyPlace)

namespace Scan

def start (source : Source) : Scan := ⟨.ofSource source, 0, [], false, 0, -1, [], true, []⟩

def column (scan : Scan) : Int := scan.cursor.column

def inFlow (scan : Scan) : Bool := scan.depth != 0

def push (scan : Scan) (token : Token) : Scan := { scan with pending := scan.pending ++ [⟨[], token⟩] }

/-- Reads on from where the scan is. -/
def read {α : Type} (scan : Scan) (reading : Reading α) : Except Fault (α × Scan) :=
  (reading.run scan.cursor).map fun (a, cursor) => (a, { scan with cursor })

/-- Closes the block collections to the right of a column. -/
def unwind (scan : Scan) (column : Int) : Scan :=
  let rec go (indent : Int) (closed : List Slot) : List Int → Int × List Slot × List Int
    | [] => (indent, closed, [])
    | outer :: rest =>
      if column < indent then go outer (⟨[], .blockEnd⟩ :: closed) rest
      else (indent, closed, outer :: rest)
  if scan.inFlow then scan
  else
    let (indent, closed, outer) := go scan.indent [] scan.outer
    { scan with indent, outer, pending := scan.pending ++ closed }

/-- Opens a block collection at a column if it is to the right of the current one; the flag tells
whether it was opened. -/
def indentTo (scan : Scan) (column : Int) : Scan × Bool :=
  if scan.indent < column then
    ({ scan with indent := column, outer := scan.indent :: scan.outer }, true)
  else (scan, false)

/-- Forgets the places that have become too old to begin a key. -/
def dropStale (scan : Scan) : Except Fault Scan :=
  let isStale (place : KeyPlace) : Bool :=
    place.line != scan.cursor.line || maxKeyLength + place.index < scan.cursor.index
  if scan.keys.any fun (_, place) => place.required && isStale place then .error .malformed
  else .ok { scan with keys := scan.keys.filter fun (_, place) => !isStale place }

/-- Forgets the place at the current depth; a required key must not be forgotten. -/
def dropKey (scan : Scan) : Except Fault Scan :=
  if (scan.keys.lookup scan.depth).any (·.required) then .error .malformed
  else .ok { scan with keys := scan.keys.filter fun (depth, _) => depth != scan.depth }

/-- Remembers that a key may begin here. -/
def saveKey (scan : Scan) : Except Fault Scan :=
  if scan.keyAllowed then
    scan.dropKey.map fun scan =>
      let place : KeyPlace := ⟨scan.taken + scan.pending.length, !scan.inFlow && scan.indent == scan.column,
        scan.cursor.index, scan.cursor.line, scan.cursor.column⟩
      { scan with keys := (scan.depth, place) :: scan.keys }
  else .ok scan

/-- Skips blanks, comments and line breaks, and tells whether there was a line break. -/
def skipGaps : Nat → Bool → Reading Bool
  | 0, broken => return broken
  | fuel + 1, broken => do
    skipSpaces
    skipComment
    if (← takeBreak).isEmpty then return broken else skipGaps fuel true

/-- Skips a byte order mark at the front of the text. -/
def skipMark : Reading Unit := do
  if (← get).index = 0 then
    if (← peek) == '\ufeff' then skip 1

/-- Skips what is in front of the next token. -/
def toToken (scan : Scan) : Except Fault Scan := do
  let (broken, scan) ← scan.read do
    skipMark
    skipGaps (← bound) false
  return { scan with keyAllowed := scan.keyAllowed || (broken && !scan.inFlow) }

/-- Ends the block collections, as the borders of documents do. -/
def leaveBlocks (scan : Scan) : Except Fault Scan :=
  (scan.unwind (-1)).dropKey.map fun scan => { scan with keyAllowed := false }

/-- Takes a token of some characters. -/
def takeMark (scan : Scan) (length : Nat) (token : Token) : Except Fault Scan :=
  (scan.read (skip length)).map fun (_, scan) => scan.push token

/-- Takes a token that may begin a key, and that no key may follow at once. -/
def takeContent (scan : Scan) (reading : Reading Token) : Except Fault Scan := do
  let scan ← scan.saveKey
  let (token, scan) ← { scan with keyAllowed := false }.read reading
  return scan.push token

def openFlow (scan : Scan) (token : Token) : Except Fault Scan := do
  let scan ← scan.saveKey
  { scan with depth := scan.depth + 1, keyAllowed := true }.takeMark 1 token

def closeFlow (scan : Scan) (token : Token) : Except Fault Scan := do
  let scan ← scan.dropKey
  { scan with depth := scan.depth - 1, keyAllowed := false }.takeMark 1 token

/-- Opens a block collection at the current column, unless one is open there or the scan is in a flow
collection. -/
def openBlock (scan : Scan) (opening : Token) : Except Fault Scan := do
  if scan.inFlow then return scan
  if !scan.keyAllowed then throw .malformed
  let (scan, opened) := scan.indentTo scan.column
  return if opened then scan.push opening else scan

def takeBlockEntry (scan : Scan) : Except Fault Scan := do
  let scan ← scan.openBlock .blockSequenceStart
  let scan ← { scan with keyAllowed := true }.dropKey
  scan.takeMark 1 .blockEntry

def takeKey (scan : Scan) : Except Fault Scan := do
  let scan ← scan.openBlock .blockMappingStart
  let scan ← { scan with keyAllowed := !scan.inFlow }.dropKey
  scan.takeMark 1 .key

/-- Takes the colon in front of a value. If a key may have begun, it did. -/
def takeValue (scan : Scan) : Except Fault Scan := do
  match scan.keys.lookup scan.depth with
  | some place =>
    let scan := { scan with
      keys := scan.keys.filter fun (depth, _) => depth != scan.depth, keyAllowed := false }
    let (scan, opened) := if scan.inFlow then (scan, false) else scan.indentTo place.column
    let marks := if opened then [.blockMappingStart, .key] else [.key]
    { scan with pending := scan.pending.modify (place.slot - scan.taken) fun slot =>
      { slot with marks := marks ++ slot.marks } }.takeMark 1 .value
  | none =>
    let scan ← scan.openBlock .blockMappingStart
    { scan with keyAllowed := !scan.inFlow }.takeMark 1 .value

/-- The characters that no plain scalar begins with, unless something follows some of them at once. -/
def isIndicator (c : Char) : Bool := "-?:,[]\x7b\x7d#&*!|>'\"%@\x60".toList.contains c

/-- Whether a plain scalar may begin here. -/
def atPlain (inFlow : Bool) : Reading Bool := do
  let c ← peek
  if !isGapOrEnd c && !isIndicator c then return true
  let gap := isGapOrEnd (← peekAt 1)
  return !gap && (c == '-' || (!inFlow && (c == '?' || c == ':')))

def takePlain (scan : Scan) : Except Fault Scan := do
  let scan ← scan.saveKey
  let ((text, atBreak), scan) ← scan.read (plainScalar scan.inFlow (scan.indent + 1))
  return { scan with keyAllowed := atBreak }.push (.scalar text true)

def takeBlock (scan : Scan) (fold : Bool) : Except Fault Scan := do
  let scan ← { scan with keyAllowed := true }.dropKey
  let (text, scan) ← scan.read (blockScalar fold scan.indent)
  return scan.push (.scalar text false)

/-- Takes a token whose mark is always its own, if one stands next. -/
def takeIndicator? (scan : Scan) (c : Char) : Option (Except Fault Scan) :=
  match c with
  | '[' => some <| scan.openFlow .flowSequenceStart
  | '\x7b' => some <| scan.openFlow .flowMappingStart
  | ']' => some <| scan.closeFlow .flowSequenceEnd
  | '\x7d' => some <| scan.closeFlow .flowMappingEnd
  | ',' => some do (← { scan with keyAllowed := true }.dropKey).takeMark 1 .flowEntry
  | '*' => some <| scan.takeContent (.alias <$> takeAnchor)
  | '&' => some <| scan.takeContent (.anchor <$> takeAnchor)
  | '!' => some <| scan.takeContent (.tag <$> takeTag)
  | '\'' => some <| scan.takeContent ((.scalar · false) <$> quotedScalar false)
  | '"' => some <| scan.takeContent ((.scalar · false) <$> quotedScalar true)
  | _ => none

/-- What stands next, as far as it takes a look at the characters behind the first one. -/
inductive Ahead where
  | documentStart
  | documentEnd
  | blockEntry
  | key
  | value
  | plain
  | nothing
  deriving DecidableEq, Repr

def lookAhead (c : Char) (atLineStart inFlow : Bool) : Reading Ahead := do
  if c == '-' then
    if atLineStart then
      if ← atMarks '-' then return .documentStart
    if isGapOrEnd (← peekAt 1) then return .blockEntry
  else if c == '.' then
    if atLineStart then
      if ← atMarks '.' then return .documentEnd
  else if c == '?' || c == ':' then
    let found := if c == '?' then Ahead.key else .value
    if inFlow then return found
    if isGapOrEnd (← peekAt 1) then return found
  if ← atPlain inFlow then return .plain else return .nothing

/-- Takes the token that begins with a character, which stands next. -/
def take (scan : Scan) (c : Char) : Except Fault Scan := do
  if c == '%' && scan.column == 0 then
    let scan ← scan.leaveBlocks
    let (directive, scan) ← scan.read takeDirective
    return scan.push (.directive directive)
  if (c == '|' || c == '>') && !scan.inFlow then return ← scan.takeBlock (c == '>')
  match scan.takeIndicator? c with
  | some taken => taken
  | none =>
    let (ahead, scan) ← scan.read (lookAhead c (scan.column == 0) scan.inFlow)
    match ahead with
    | .documentStart => (← scan.leaveBlocks).takeMark 3 .documentStart
    | .documentEnd => (← scan.leaveBlocks).takeMark 3 .documentEnd
    | .blockEntry => scan.takeBlockEntry
    | .key => scan.takeKey
    | .value => scan.takeValue
    | .plain => scan.takePlain
    | .nothing => throw .malformed

/-- Goes up to the next token and takes it; at the end of the text this is the last one. -/
def step (scan : Scan) : Except Fault Scan := do
  let scan ← (← scan.toToken).dropStale
  let (c, scan) ← (scan.unwind scan.column).read peek
  if c == endMark then return { (← scan.leaveBlocks).push .streamEnd with complete := true }
  else scan.take c

/-- Takes tokens until the first one is ready to be handed out. -/
def fill : Nat → Scan → Except Fault Scan
  | 0, _ => .error .malformed
  | fuel + 1, scan =>
    if scan.complete then .ok scan
    else if scan.pending.isEmpty then scan.step >>= fill fuel
    else do
      let scan ← scan.dropStale
      if scan.keys.any fun (_, place) => place.slot == scan.taken then scan.step >>= fill fuel
      else return scan

/-- The next token, and the scan with that token ready. -/
def next (scan : Scan) : Except Fault (Token × Scan) := do
  let scan ← scan.fill (scan.cursor.bound + 2)
  match scan.pending with
  | [] => throw .malformed
  | slot :: _ => return (slot.marks.headD slot.token, scan)

/-- Goes on behind the next token. -/
def skipToken (scan : Scan) : Scan :=
  match scan.pending with
  | [] => scan
  | ⟨[], _⟩ :: rest => { scan with pending := rest, taken := scan.taken + 1 }
  | ⟨_ :: marks, token⟩ :: rest => { scan with pending := ⟨marks, token⟩ :: rest }

end Scan
end QueryPlayground.Yaml
