import QueryPlayground.Json.Basic

/-!
Reaching into values of unknown shape: members by name, and elements one by one.
-/
namespace QueryPlayground

/-- Why a value cannot be reached into. -/
inductive AccessFault where
  | missing (name : String)
  | textIndex
  | byteIndex
  | listIndex
  | notSubscriptable (kind : String)
  | notIterable (kind : String)
  deriving DecidableEq, Repr

def AccessFault.message : AccessFault → String
  | .missing name => s!"'{name}'"
  | .textIndex => "string indices must be integers, not 'str'"
  | .byteIndex => "byte indices must be integers or slices, not str"
  | .listIndex => "list indices must be integers or slices, not str"
  | .notSubscriptable kind => s!"'{kind}' object is not subscriptable"
  | .notIterable kind => s!"'{kind}' object is not iterable"

namespace Json

/-- The member of an object under a name. -/
def item (value : Json) (name : String) : Except AccessFault Json :=
  match value with
  | .obj members => (member? name members).elim (.error (.missing name)) .ok
  | .str _ => .error .textIndex
  | .arr _ => .error .listIndex
  | v => .error (.notSubscriptable v.kindName)

/-- What a value holds, one by one: the items of an array, the names in an object, the characters of a
text. -/
def elements (value : Json) : Except AccessFault (List Json) :=
  match value with
  | .arr items => .ok items
  | .obj members => .ok (members.map fun (name, _) => .str name)
  | .str s => .ok (s.toList.map fun c => .str (String.ofList [c]))
  | v => .error (.notIterable v.kindName)

/-- The elements of a value, none when it counts as false. -/
def elementsOrNone (value : Json) : Except AccessFault (List Json) :=
  if value.isTruthy then value.elements else .ok []

end Json
end QueryPlayground
