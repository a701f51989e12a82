import QueryPlayground.Binary64.Reading
import QueryPlayground.Binary64.Arithmetic

/-!
JSON values. Integers are exact and kept apart from double-precision numbers, and the members of an
object keep their order.
-/
namespace QueryPlayground

inductive Json where
  | null
  | bool (value : Bool)
  | int (value : Int)
  | float (value : Binary64)
  | str (value : String)
  | arr (items : List Json)
  | obj (members : List (String × Json))
  deriving Repr, Inhabited

namespace Json

/-- Sets a member of an object: a name that is present keeps its place. -/
def setMember (name : String) (value : Json) : List (String × Json) → List (String × Json)
  | [] => [(name, value)]
  | (n, v) :: rest => if n = name then (n, value) :: rest else (n, v) :: setMember name value rest

/-- The value of a member of an object. -/
def member? (name : String) (members : List (String × Json)) : Option Json := members.lookup name

/-- The members of an object; other values have none. -/
def members? : Json → Option (List (String × Json))
  | .obj members => some members
  | _ => none

/-- The member of an object, null when the value has no such member. -/
def field (value : Json) (name : String) : Json :=
  match value with
  | .obj members => (member? name members).getD .null
  | _ => .null

/-- Null, false, zeros and empty texts, arrays and objects count as false. -/
def isTruthy : Json → Bool
  | .null => false
  | .bool b => b
  | .int n => n != 0
  | .float x => !x.isZero
  | .str s => !s.isEmpty
  | .arr items => !items.isEmpty
  | .obj members => !members.isEmpty

/-- The name of the kind of a value, as diagnostics give it. -/
def kindName : Json → String
  | .null => "NoneType"
  | .bool _ => "bool"
  | .int _ => "int"
  | .float _ => "float"
  | .str _ => "str"
  | .arr _ => "list"
  | .obj _ => "dict"

/-- The name of the JSON type of a value. -/
def typeName : Json → String
  | .null => "null"
  | .bool _ => "boolean"
  | .int _ => "number"
  | .float _ => "number"
  | .str _ => "string"
  | .arr _ => "array"
  | .obj _ => "object"

end Json
end QueryPlayground
