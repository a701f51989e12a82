import QueryPlayground.Settings.Merge
import QueryPlayground.Text.Base64
import QueryPlayground.Yaml.Node
import QueryPlayground.Yaml.Number

/-!
From nodes to values. A collection becomes a value before its parts do, so it may hold itself; its parts
follow after everything that stands on its own level. Mappings that are merged into another one become a
part of it when its turn comes.
-/
namespace QueryPlayground.Yaml

/-- The booleans, by their names in small letters. -/
def booleans : List (String × Bool) :=
  [("yes", true), ("no", false), ("true", true), ("false", false), ("on", true), ("off", false)]

/-- The scalar that a text of a type stands for. -/
def scalarOf (tag : Tag) (text : List Char) : Except Fault Scalar :=
  match tag with
  | .null => .ok .null
  | .str => .ok (.str (String.ofList text))
  | .bool =>
    let word := String.ofList (Text.lowerChars text)
    match booleans.lookup word with
    | some b => .ok (.bool b)
    | none => .error (.value (.boolean word))
  | .int => ((integerOf text).map .int).mapError .value
  | .float => ((floatOf text).map .float).mapError .value
  | .timestamp =>
    match Timestamp.ofText? (if text.getLast? = some '\n' then text.dropLast else text) with
    | none => .error (.value .timestamp)
    | some stamp => stamp.value.mapError fun fault => .value (.calendar fault)
  | .binary =>
    match text.all (fun c => c.toNat < 0x80), Text.ofBase64? text with
    | true, some bytes => .ok (.bytes bytes)
    | _, _ => .error .malformed
  | _ => .error .malformed

/-- A key with its form. -/
structure Key where
  value : Scalar
  form : KeyForm
  deriving DecidableEq, Repr

/-- Sets a member: of keys that are the same the first one and its place are kept. -/
def putMember (key : Key) (value : Nat) : List (Key × Nat) → List (Key × Nat)
  | [] => [(key, value)]
  | (k, v) :: rest =>
    if k.form = key.form then (k, value) :: rest else (k, v) :: putMember key value rest

/-- The nodes of a document, the values that have been made of them, and the collections among these in
the order in which their parts follow. `lone` holds the places of what is not a number without being the
word for it. No chain of merges takes more steps than `bound`. -/
structure Draft where
  nodes : Array Node
  pieces : Array (Option Piece)
  collections : Array Nat
  lone : List Nat
  bound : Nat

namespace Draft

/-- The number of parts of a node. -/
def partCount : Node → Nat
  | .scalar .. => 0
  | .sequence _ items => items.length
  | .mapping _ members => members.length

/-- A draft without values. Each step of a merge uses up a member or looks at an item, and an item may be
looked at once for each member. -/
def ofNodes (nodes : Array Node) : Draft :=
  let parts := nodes.foldl (fun n node => n + partCount node + 1) 1
  ⟨nodes, Array.replicate nodes.size none, #[], [], Nat.pow parts 2⟩

end Draft

abbrev Build := StateT Draft (Except Fault)

namespace Build

def node (place : Nat) : Build Node := do return (← get).nodes.getD place default

def refuse {α : Type} : Build α := throw .malformed

/-- The text of a scalar, or of the member of a mapping that gives its value. A mapping whose value is
itself has none. -/
def text : Nat → Nat → Build (List Char)
  | 0, _ => throw (.value .endless)
  | fuel + 1, place => do
    match ← node place with
    | .scalar _ text => return text
    | .sequence .. => refuse
    | .mapping _ members =>
      let nodes := (← get).nodes
      match members.find? fun (key, _) => (nodes.getD key default).tag = .value with
      | none => refuse
      | some (_, value) => text fuel value

/-- The empty collection of a type. -/
def emptyPiece? : Tag → Option Piece
  | .seq => some (.list [])
  | .map => some (.map [])
  | .set => some (.set [])
  | .omap => some (.pairs [])
  | .pairs => some (.pairs [])
  | _ => none

def put (place : Nat) (piece : Piece) : Build Unit :=
  modify fun draft => { draft with pieces := draft.pieces.setIfInBounds place (some piece) }

/-- The value of a node; that of a collection is still without its parts. -/
def piece (place : Nat) : Build Piece := do
  match (← get).pieces.getD place none with
  | some piece => return piece
  | none =>
    let node ← node place
    match emptyPiece? node.tag with
    | some piece =>
      put place piece
      modify fun draft => { draft with collections := draft.collections.push place }
      return piece
    | none =>
      let text ← text ((← get).nodes.size + 1) place
      if node.tag = .timestamp ∧ node matches .mapping .. then throw (.value .timestampInParts)
      let scalar ← scalarOf node.tag text
      if node.tag = .float ∧ !isNanWord text then
        modify fun draft => { draft with lone := place :: draft.lone }
      put place (.scalar scalar)
      return .scalar scalar

/-- Makes the value of a node. -/
def make (place : Nat) : Build Unit := do
  let _ ← piece place

/-- The key of a mapping; collections are no keys. -/
def key (place : Nat) : Build Key := do
  match ← piece place with
  | .scalar v => return ⟨v, v.keyForm (if (← get).lone.contains place then some place else none)⟩
  | _ => refuse

/-- The members of a mapping, without those that are to be merged into it. -/
def members (place : Nat) : Build (List (Nat × Nat)) := do
  match ← node place with
  | .mapping _ members => return members
  | _ => refuse

/-- Gives a mapping other members. -/
def setMembers (place : Nat) (members : List (Nat × Nat)) : Build Unit :=
  modify fun draft => { draft with
    nodes := draft.nodes.modify place fun node => .mapping node.tag members }

/-- The mark of a value is a text where it is the key of a mapping. -/
def asText : Node → Node
  | .scalar .value text => .scalar .str text
  | .sequence .value items => .sequence .str items
  | .mapping .value members => .mapping .str members
  | node => node

/-- The mappings that a node merges into a mapping, those to be merged last first. -/
def merged (place : Nat) : Build (List Nat) := do
  match ← node place with
  | .scalar .. => refuse
  | .mapping .. => return [place]
  | .sequence _ items => return items

mutual

/-- Merges into a mapping what is to be merged into it. Its own members come after the merged ones. A
mapping that is being merged into itself has the members that are left by then. -/
def flatten : Nat → Nat → Build Unit
  | 0, _ => throw (.value .endless)
  | fuel + 1, place => do
    let own ← members place
    let nodes := (← get).nodes
    match own.findIdx? fun (key, _) => (nodes.getD key default).tag = .merge with
    | none => modify fun draft => { draft with
        nodes := own.foldl (fun nodes (key, _) => nodes.modify key asText) draft.nodes }
    | some index =>
      setMembers place (own.eraseIdx index)
      let sources ← merged ((own[index]?.map Prod.snd).getD place)
      let added ← mergedMembers fuel [] sources
      flatten fuel place
      setMembers place (added ++ (← members place))

/-- The members of mappings that are merged; those of the last mapping come first. -/
def mergedMembers : Nat → List (Nat × Nat) → List Nat → Build (List (Nat × Nat))
  | 0, _, _ => throw (.value .endless)
  | _, done, [] => return done
  | fuel + 1, done, place :: rest => do
    let _ ← members place
    flatten fuel place
    mergedMembers fuel ((← members place) ++ done) rest

end

/-- The members of a mapping as values, with the merged ones in front. -/
def entries (place : Nat) : Build (List (Key × Nat)) := do
  let _ ← members place
  flatten (← get).bound place
  (← members place).foldlM (fun done (keyPlace, value) => do
    let key ← key keyPlace
    make value
    return putMember key value done) []

/-- The items of a sequence. -/
def items (place : Nat) : Build (List Nat) := do
  match ← node place with
  | .sequence _ items => return items
  | _ => refuse

/-- A pair, which is a mapping of exactly one member. -/
def pair (place : Nat) : Build (Nat × Nat) := do
  match ← members place with
  | [(first, second)] =>
    make first
    make second
    return (first, second)
  | _ => refuse

/-- Gives a collection its parts. -/
def complete (place : Nat) : Build Unit := do
  match ← piece place with
  | .scalar _ => return ()
  | .list _ =>
    let items ← items place
    items.forM make
    put place (.list items)
  | .pairs _ => put place (.pairs (← (← items place).mapM pair))
  | .set _ => put place (.set ((← entries place).map fun (key, _) => key.value))
  | .map _ => put place (.map ((← entries place).map fun (key, value) => (key.value, value)))

/-- Gives the collections from the `n`-th on their parts. Every node becomes a value only once, so there
are no more collections than nodes. -/
def completeFrom (n : Nat) : Nat → Build Unit
  | 0 => return ()
  | fuel + 1 => do
    match (← get).collections[n]? with
    | none => return ()
    | some place =>
      complete place
      completeFrom (n + 1) fuel

end Build

/-- The values of the nodes of a document, each at the place of its node. -/
def Outline.graph (outline : Outline) : Except Fault Graph := do
  let build : Build Unit := do
    Build.make outline.root
    Build.completeFrom 0 (outline.nodes.size + 1)
  let (_, draft) ← build.run (.ofNodes outline.nodes)
  return ⟨draft.pieces.map fun piece => piece.getD (.scalar .null)⟩

/-- The tree of a source, with mappings unfolded down to a depth. A source without a document holds
null. -/
def read (depth : Nat) (source : Source) : Except Fault Tree := do
  match ← Outline.ofSource? source with
  | none => return .scalar .null
  | some outline => return (← outline.graph).tree depth outline.root

end QueryPlayground.Yaml
