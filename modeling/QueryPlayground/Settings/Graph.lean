import QueryPlayground.Settings.SetOrder

/-!
Values that are shared and that may hold themselves. Every value has a place in a graph, and collections
hold the places of their parts. A display is cut off where a collection stands inside itself, so it ends
although the value does not.
-/
namespace QueryPlayground

/-- A value of a graph, whose parts are given by their places. -/
inductive Piece where
  | scalar (value : Scalar)
  | list (items : List Nat)
  | pairs (items : List (Nat × Nat))
  | set (members : List Scalar)
  | map (members : List (Scalar × Nat))
  deriving Repr, Inhabited

structure Graph where
  pieces : Array Piece
  deriving Repr, Inhabited

namespace Piece

def kindName : Piece → String
  | .scalar v => v.kindName
  | .list _ => "list"
  | .pairs _ => "list"
  | .set _ => "set"
  | .map _ => "dict"

/-- Empty collections count as false. -/
def isTruthy : Piece → Bool
  | .scalar v => v.isTruthy
  | .list items => !items.isEmpty
  | .pairs items => !items.isEmpty
  | .set members => !members.isEmpty
  | .map members => !members.isEmpty

/-- What stands for a collection inside itself. -/
def ellipsis : Piece → List Char
  | .map _ => "\x7b...\x7d".toList
  | _ => "[...]".toList

/-- Parts with commas between them, inside a pair of marks. -/
def enclosed (opening closing : Char) (parts : List (List Char)) : List Char :=
  opening :: ([',', ' '].intercalate parts ++ [closing])

/-- The display of a value, given those of its parts. -/
def shown (part : Nat → List Char) : Piece → List Char
  | .scalar v => v.shown
  | .list items => enclosed '[' ']' (items.map part)
  | .pairs items => enclosed '[' ']' (items.map fun (a, b) => enclosed '(' ')' [part a, part b])
  | .set [] => "set()".toList
  | .set members => enclosed '\x7b' '\x7d' ((SetOrder.arranged members).map Scalar.shown)
  | .map members => enclosed '\x7b' '\x7d' (members.map fun (k, v) => k.shown ++ ':' :: ' ' :: part v)

/-- Whether a value can be shown, given whether its parts can. -/
def isShowable (part : Nat → Bool) : Piece → Bool
  | .scalar v => v.isShowable
  | .list items => items.all part
  | .pairs items => items.all fun (a, b) => part a && part b
  | .set members => members.all Scalar.isShowable
  | .map members => members.all fun (k, v) => k.isShowable && part v

end Piece

namespace Graph

/-- The value at a place. -/
def piece (graph : Graph) (place : Nat) : Piece := graph.pieces.getD place default

/-- The display of the value at a place; `outer` holds the places of the collections around it. -/
def shownInside (graph : Graph) : Nat → List Nat → Nat → List Char
  | 0, _, _ => []
  | depth + 1, outer, place =>
    let piece := graph.piece place
    if outer.contains place then piece.ellipsis
    else piece.shown (graph.shownInside depth (place :: outer))

/-- The collections around a value are different ones, so there are at most as many as places. -/
def shown (graph : Graph) (place : Nat) : List Char := graph.shownInside (graph.pieces.size + 1) [] place

/-- Whether everything can be shown that a display of the value at a place needs. -/
def isShowableInside (graph : Graph) : Nat → List Nat → Nat → Bool
  | 0, _, _ => true
  | depth + 1, outer, place =>
    outer.contains place ||
      (graph.piece place).isShowable (graph.isShowableInside depth (place :: outer))

def isShowable (graph : Graph) (place : Nat) : Bool :=
  graph.isShowableInside (graph.pieces.size + 1) [] place

end Graph
end QueryPlayground
