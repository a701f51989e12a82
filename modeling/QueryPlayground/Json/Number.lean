import QueryPlayground.Binary64.Conversion
import QueryPlayground.Json.Display

/-!
Values taken as double-precision numbers: numbers and booleans count as themselves, and texts as the
numbers that they denote.
-/
namespace QueryPlayground.Json

def toNumber : Json → Except Binary64.ConversionFault Binary64
  | .float x => .ok x
  | .int n => Binary64.convertInt n
  | .bool b => .ok (Binary64.convertBool b)
  | .str s => Binary64.convertText s
  | v => .error (.wrongKind v.kindName)

/-- The text of a number in a statistic: whole numbers without a point. -/
def figure : Json → String
  | .float x =>
    match x.isInteger, x.truncate? with
    | true, some n => String.ofList (writeInt n)
    | _, _ => String.ofList x.text
  | v => v.display

end QueryPlayground.Json
