import QueryPlayground.Engine.Outcome
import QueryPlayground.Json.Number

/-!
Outcomes out of the payloads of the remote service. Whatever is missing or malformed collapses to
nothing, so that every payload gives a complete outcome: a scalar if its type says so, else a table.
-/
namespace QueryPlayground.Payload

/-- A number as it stands, or the number that a text denotes; anything else counts as zero. -/
def numberOrZero : Json → Json
  | .int n => .int n
  | .float x => .float x
  | .str s => (Binary64.ofText? s.toList).elim (.int 0) .float
  | _ => .int 0

/-- The text of a value; what counts as false has none. -/
def textOrNone (value : Json) : String := if value.isTruthy then value.display else ""

/-- The capital of a character as far as `SCALAR` needs it: the long s is a small s as well. -/
def capital (c : Char) : Char := if c = 'ſ' then 'S' else c.toUpper

/-- Whether a type is `SCALAR` in any mixture of cases. -/
def isScalar (type : Json) : Bool :=
  (textOrNone type).toList.map capital == ['S', 'C', 'A', 'L', 'A', 'R']

/-- The items of an array; what counts as false has none, and other values are refused. -/
def items? (value : Json) : Option (List Json) :=
  match value with
  | .arr items => some items
  | v => if v.isTruthy then none else some []

/-- A row that is no array is a row of one cell. -/
def rowCells : Json → List Json
  | .arr cells => cells
  | cell => [cell]

/-- Columns and rows; if either is no array, there are none of both. -/
def tableParts (columns rows : Json) : List Json × List Json :=
  match items? columns, items? rows with
  | some columns, some rows => (columns, rows)
  | _, _ => ([], [])

def outcome (payload : Json) : Outcome :=
  let body := payload.field "data"
  if isScalar (payload.field "type") then
    .scalar (numberOrZero (body.field "value")) (textOrNone (body.field "message"))
  else
    let (columns, rows) := tableParts (body.field "columns") (body.field "rows")
    .table (columns.map Json.display) (rows.map rowCells) (numberOrZero (payload.field "execTimeMs"))

/-- The outcome when the service gives no payload. -/
def emptyTable : Outcome := .table [] [] (.int 0)

end QueryPlayground.Payload
