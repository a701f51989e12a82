import QueryPlayground.Json.Access
import QueryPlayground.Settings.Graph

/-!
Trees of settings: what a settings file holds. Mappings keep their order, and any scalar may be a key. What
lies deeper than any setting stays in the graph of its file.
-/
namespace QueryPlayground

inductive Tree where
  | scalar (value : Scalar)
  | list (items : List Tree)
  | map (members : List (Scalar × Tree))
  | held (graph : Graph) (place : Nat)
  deriving Repr, Inhabited

/-- The tree at a place of a graph, with mappings unfolded down to a depth. -/
def Graph.tree (graph : Graph) : Nat → Nat → Tree
  | 0, place =>
    match graph.piece place with
    | .scalar v => .scalar v
    | _ => .held graph place
  | depth + 1, place =>
    match graph.piece place with
    | .scalar v => .scalar v
    | .map members => .map (members.map fun (k, v) => (k, graph.tree depth v))
    | _ => .held graph place

namespace Tree

def kindName : Tree → String
  | .scalar v => v.kindName
  | .list _ => "list"
  | .map _ => "dict"
  | .held graph place => (graph.piece place).kindName

def isTruthy : Tree → Bool
  | .scalar v => v.isTruthy
  | .list items => !items.isEmpty
  | .map members => !members.isEmpty
  | .held graph place => (graph.piece place).isTruthy

mutual

/-- A tree as a part of a larger display. -/
def shown : Tree → List Char
  | .scalar v => v.shown
  | .list items => Piece.enclosed '[' ']' (shownItems items)
  | .map members => Piece.enclosed '\x7b' '\x7d' (shownMembers members)
  | .held graph place => graph.shown place

def shownItems : List Tree → List (List Char)
  | [] => []
  | t :: rest => shown t :: shownItems rest

def shownMembers : List (Scalar × Tree) → List (List Char)
  | [] => []
  | (k, t) :: rest => (k.shown ++ ':' :: ' ' :: shown t) :: shownMembers rest

end

/-- The display text of a tree. -/
def display : Tree → String
  | .scalar v => String.ofList v.displayChars
  | t => String.ofList (shown t)

mutual

/-- Whether everything in a tree can be shown. -/
def isShowable : Tree → Bool
  | .scalar v => v.isShowable
  | .list items => areShowable items
  | .map members => areShowableMembers members
  | .held graph place => graph.isShowable place

def areShowable : List Tree → Bool
  | [] => true
  | t :: rest => isShowable t && areShowable rest

def areShowableMembers : List (Scalar × Tree) → Bool
  | [] => true
  | (k, t) :: rest => k.isShowable && isShowable t && areShowableMembers rest

end

/-- The number that a tree is or denotes. -/
def toNumber : Tree → Except Binary64.ConversionFault Binary64
  | .scalar v => v.toNumber
  | t => .error (.wrongKind t.kindName)

/-- The member of a mapping under a name. -/
def item (tree : Tree) (name : String) : Except AccessFault Tree :=
  match tree with
  | .map members => (members.lookup (.str name)).elim (.error (.missing name)) .ok
  | .list _ => .error .listIndex
  | .scalar (.str _) => .error .textIndex
  | .scalar (.bytes _) => .error .byteIndex
  | .scalar v => .error (.notSubscriptable v.kindName)
  | .held graph place =>
    match graph.piece place with
    | .map members => (members.lookup (.str name)).elim (.error (.missing name)) (.ok ∘ graph.tree 0)
    | .list _ => .error .listIndex
    | .pairs _ => .error .listIndex
    | piece => .error (.notSubscriptable piece.kindName)

mutual

/-- The tree of a JSON value. -/
def ofJson : Json → Tree
  | .null => .scalar .null
  | .bool b => .scalar (.bool b)
  | .int n => .scalar (.int n)
  | .float x => .scalar (.float x)
  | .str s => .scalar (.str s)
  | .arr items => .list (ofItems items)
  | .obj members => .map (ofMembers members)

def ofItems : List Json → List Tree
  | [] => []
  | v :: rest => ofJson v :: ofItems rest

def ofMembers : List (String × Json) → List (Scalar × Tree)
  | [] => []
  | (k, v) :: rest => (.str k, ofJson v) :: ofMembers rest

end

end Tree
end QueryPlayground
