import QueryPlayground.Yaml.Tag
import QueryPlayground.Yaml.TokenStream

/-!
From tokens to nodes: scalars and collections with their types. Every node has a place in a table, and
collections hold the places of their parts. An alias is the place of its anchor's node, so a collection may
hold itself.
-/
namespace QueryPlayground.Yaml

inductive Node where
  | scalar (tag : Tag) (text : List Char)
  | sequence (tag : Tag) (items : List Nat)
  | mapping (tag : Tag) (members : List (Nat × Nat))
  deriving Repr, Inhabited

namespace Node

def tag : Node → Tag
  | .scalar tag _ => tag
  | .sequence tag _ => tag
  | .mapping tag _ => tag

end Node

/-- What is still to be read, the nodes and anchors so far, and the meanings of the handles of tags. The
node of a collection is without parts as long as it is being read. -/
structure Feed where
  scan : Scan
  nodes : Array Node
  anchors : List (List Char × Nat)
  handles : List (List Char × List Char)

abbrev Parse := StateT Feed (Except Fault)

namespace Parse

/-- The next token. -/
def peek : Parse Token := do
  let (token, scan) ← (← get).scan.next
  modify fun feed => { feed with scan }
  return token

/-- Goes on behind the next token. -/
def skip : Parse Unit := modify fun feed => { feed with scan := feed.scan.skipToken }

/-- Goes on behind the next token if it is the given one. -/
def accept (token : Token) : Parse Bool := do
  if (← peek) = token then
    skip
    return true
  else return false

/-- Goes on behind the next token, which must be the given one. -/
def demand (token : Token) : Parse Unit := do
  unless ← accept token do throw .malformed

/-- Whether the next token is one of the given ones. -/
def atAny (tokens : List Token) : Parse Bool := do return tokens.contains (← peek)

/-- The place of a new node. -/
def add (node : Node) : Parse Nat :=
  modifyGet fun feed => (feed.nodes.size, { feed with nodes := feed.nodes.push node })

/-- Puts a node in the place of another one. -/
def replace (place : Nat) (node : Node) : Parse Unit :=
  modify fun feed => { feed with nodes := feed.nodes.setIfInBounds place node }

/-- What stands where nothing is written. -/
def addEmpty : Parse Nat := add (.scalar .null [])

/-- The anchor that stands next, if there is one. -/
def anchor? : Parse (Option (List Char)) := do
  match ← peek with
  | .anchor name => skip; return some name
  | _ => return none

/-- The tag that stands next, if there is one. -/
def tag? : Parse (Option TagText) := do
  match ← peek with
  | .tag tag => skip; return some tag
  | _ => return none

/-- The full name of a tag. -/
def fullName (tag : TagText) : Parse (List Char) := do
  match tag.handle with
  | none => return tag.suffix
  | some handle =>
    match (← get).handles.lookup handle with
    | some lead => return lead ++ tag.suffix
    | none => throw .malformed

/-- The anchor and the tag in front of a node, in either order. -/
def properties : Parse (Option (List Char) × Option (List Char)) := do
  let (anchor, tag) ← match ← anchor? with
    | some name => do pure (some name, ← tag?)
    | none => do
      match ← tag? with
      | some tag => do pure (← anchor?, some tag)
      | none => pure (none, none)
  match tag with
  | none => return (anchor, none)
  | some tag => return (anchor, some (← fullName tag))

/-- Refuses an anchor that has the name of an earlier one. -/
def checkAnchor : Option (List Char) → Parse Unit
  | none => return ()
  | some name => do
    if ((← get).anchors.lookup name).isSome then throw .malformed

/-- The place of a new node with its anchor. -/
def addAnchored (anchor : Option (List Char)) (node : Node) : Parse Nat := do
  let place ← add node
  match anchor with
  | none => return place
  | some name =>
    modify fun feed => { feed with anchors := (name, place) :: feed.anchors }
    return place

/-- The place of the node that an alias stands for. -/
def aliased (name : List Char) : Parse Nat := do
  match (← get).anchors.lookup name with
  | none => throw .malformed
  | some place => return place

/-- Whether a tag leaves the type open. -/
def isOpen (tag : Option (List Char)) : Bool := tag.all (· == ['!'])

/-- The type of a collection. -/
def collectionTag (own : Tag) (tag : Option (List Char)) : Tag :=
  if isOpen tag then own else (tag.map Tag.ofName).getD own

/-- The type of a scalar. -/
def scalarTag (tag : Option (List Char)) (plain : Bool) (text : List Char) : Tag :=
  match tag with
  | none => if plain then .ofPlain text else .str
  | some name => if name = ['!'] then .ofPlain text else .ofName name

/-- The forms of nodes: a scalar, the collections by how they are written, or nothing but an anchor or a
tag. -/
inductive Form where
  | scalar (text : List Char) (plain : Bool)
  | flowItems
  | flowMembers
  | indentlessItems
  | blockItems
  | blockMembers
  | empty
  deriving DecidableEq, Repr

/-- The form of the node that begins with a token. Collections in blocks may begin only where `block`
allows them, and sequences that are not indented only where `indentless` does. -/
def formOf? (block indentless named : Bool) (token : Token) : Option Form :=
  match token with
  | .scalar text plain => some (.scalar text plain)
  | .flowSequenceStart => some .flowItems
  | .flowMappingStart => some .flowMembers
  | _ =>
    if indentless && token == .blockEntry then some .indentlessItems
    else if block && token == .blockSequenceStart then some .blockItems
    else if block && token == .blockMappingStart then some .blockMembers
    else if named then some .empty
    else none

def blockValueEnds : List Token := [.key, .value, .blockEnd]

mutual

/-- The place of a node. -/
def node (block indentless : Bool) : Nat → Parse Nat
  | 0 => throw .malformed
  | fuel + 1 => do
    match ← peek with
    | .alias name =>
      skip
      aliased name
    | _ =>
      let (anchor, tag) ← properties
      match formOf? block indentless (anchor.isSome || tag.isSome) (← peek) with
      | none => throw .malformed
      | some form =>
        checkAnchor anchor
        content anchor tag form fuel

/-- A node behind its anchor and tag. -/
def content (anchor tag : Option (List Char)) (form : Form) : Nat → Parse Nat
  | 0 => throw .malformed
  | fuel + 1 => do
    let items := collectionTag .seq tag
    let members := collectionTag .map tag
    match form with
    | .scalar text plain =>
      skip
      addAnchored anchor (.scalar (scalarTag tag plain text) text)
    | .empty => addAnchored anchor (.scalar (scalarTag tag true []) [])
    | .flowItems =>
      skip
      let place ← addAnchored anchor (.sequence items [])
      replace place (.sequence items (← flowItems [] fuel))
      return place
    | .flowMembers =>
      skip
      let place ← addAnchored anchor (.mapping members [])
      replace place (.mapping members (← flowMembers [] fuel))
      return place
    | .indentlessItems =>
      let place ← addAnchored anchor (.sequence items [])
      replace place (.sequence items (← indentlessItems [] fuel))
      return place
    | .blockItems =>
      skip
      let place ← addAnchored anchor (.sequence items [])
      replace place (.sequence items (← blockItems [] fuel))
      return place
    | .blockMembers =>
      skip
      let place ← addAnchored anchor (.mapping members [])
      replace place (.mapping members (← blockMembers [] fuel))
      return place

/-- A node, or nothing in front of one of the given tokens. -/
def nodeBefore (ends : List Token) (block indentless : Bool) : Nat → Parse Nat
  | 0 => throw .malformed
  | fuel + 1 => do
    if ← atAny ends then addEmpty else node block indentless fuel

/-- The node behind a colon, or nothing if there is no colon. -/
def valueBefore (ends : List Token) (block : Bool) : Nat → Parse Nat
  | 0 => throw .malformed
  | fuel + 1 => do
    if ← accept .value then nodeBefore ends block block fuel else addEmpty

/-- The items of a block sequence; `done` holds those before, the last one first. -/
def blockItems (done : List Nat) : Nat → Parse (List Nat)
  | 0 => throw .malformed
  | fuel + 1 => do
    if ← accept .blockEntry then
      let item ← nodeBefore [.blockEntry, .blockEnd] true false fuel
      blockItems (item :: done) fuel
    else
      demand .blockEnd
      return done.reverse

def indentlessItems (done : List Nat) : Nat → Parse (List Nat)
  | 0 => throw .malformed
  | fuel + 1 => do
    if ← accept .blockEntry then
      let item ← nodeBefore (.blockEntry :: blockValueEnds) true false fuel
      indentlessItems (item :: done) fuel
    else return done.reverse

def blockMembers (done : List (Nat × Nat)) : Nat → Parse (List (Nat × Nat))
  | 0 => throw .malformed
  | fuel + 1 => do
    if ← accept .key then
      let key ← nodeBefore blockValueEnds true true fuel
      let value ← valueBefore blockValueEnds true fuel
      blockMembers ((key, value) :: done) fuel
    else
      demand .blockEnd
      return done.reverse

/-- A member behind the mark of its key, in a flow collection that ends with the given token. -/
def flowMember (ending : Token) : Nat → Parse (Nat × Nat)
  | 0 => throw .malformed
  | fuel + 1 => do
    let key ← nodeBefore [.value, .flowEntry, ending] false false fuel
    return (key, ← valueBefore [.flowEntry, ending] false fuel)

/-- The rest of a flow sequence; a member of a mapping counts as a mapping of its own. -/
def flowItems (done : List Nat) : Nat → Parse (List Nat)
  | 0 => throw .malformed
  | fuel + 1 => do
    if ← accept .flowSequenceEnd then return done.reverse
    unless done.isEmpty do demand .flowEntry
    if ← accept .flowSequenceEnd then return done.reverse
    if ← accept .key then
      let place ← add (.mapping .map [])
      replace place (.mapping .map [← flowMember .flowSequenceEnd fuel])
      flowItems (place :: done) fuel
    else
      let item ← node false false fuel
      flowItems (item :: done) fuel

/-- The rest of a flow mapping; a node without a colon is a key without a value. -/
def flowMembers (done : List (Nat × Nat)) : Nat → Parse (List (Nat × Nat))
  | 0 => throw .malformed
  | fuel + 1 => do
    if ← accept .flowMappingEnd then return done.reverse
    unless done.isEmpty do demand .flowEntry
    if ← accept .flowMappingEnd then return done.reverse
    if ← accept .key then
      let member ← flowMember .flowMappingEnd fuel
      flowMembers (member :: done) fuel
    else
      let key ← node false false fuel
      flowMembers ((key, ← addEmpty) :: done) fuel

end

/-- The handles that need no directive. -/
def knownHandles : List (List Char × List Char) :=
  [(['!'], ['!']), (['!', '!'], Tag.commonLead)]

/-- The directives in front of a document. `version` tells whether one gave the version. -/
def directives (version : Bool) (handles : List (List Char × List Char)) :
    Nat → Parse (List (List Char × List Char))
  | 0 => throw .malformed
  | fuel + 1 => do
    match ← peek with
    | .directive (.version major) =>
      if version || major != 1 then throw .malformed
      skip
      directives true handles fuel
    | .directive (.tagHandle handle lead) =>
      if (handles.lookup handle).isSome then throw .malformed
      skip
      directives version ((handle, lead) :: handles) fuel
    | .directive .other =>
      skip
      directives version handles fuel
    | _ => return handles

/-- Skips the marks of a document's end. -/
def skipEnds : Nat → Parse Unit
  | 0 => return ()
  | fuel + 1 => do
    if ← accept .documentEnd then skipEnds fuel

/-- The place of the root of the only document of a stream, nothing if there is none. In front of a second
document the directives are read before it is refused. -/
def document (fuel : Nat) : Parse (Option Nat) := do
  let first ← peek
  if first = .streamEnd then return none
  let explicit := first matches .directive _ || first == .documentStart
  if explicit then
    let handles ← directives false [] fuel
    modify fun feed => { feed with handles := handles ++ knownHandles }
    demand .documentStart
  let atBorder := (← peek) matches .directive _ || (← atAny [.documentStart, .documentEnd, .streamEnd])
  let root ← if explicit && atBorder then addEmpty else node true false fuel
  skipEnds fuel
  if (← peek) = .streamEnd then return some root
  let _ ← directives false [] fuel
  throw .malformed

end Parse

/-- The nodes of a document, and the place of the root. -/
structure Outline where
  nodes : Array Node
  root : Nat
  deriving Repr

/-- The document of a source, nothing if it holds none. -/
def Outline.ofSource? (source : Source) : Except Fault (Option Outline) := do
  let feed : Feed := ⟨.start source, #[], [], Parse.knownHandles⟩
  let (root, feed) ← (Parse.document (16 * source.text.length + 32)).run feed
  return root.map fun root => ⟨feed.nodes, root⟩

end QueryPlayground.Yaml
