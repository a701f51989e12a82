import QueryPlayground.Engine.Outcome
import QueryPlayground.Json.Number
import QueryPlayground.Page.Highlight

/-!
Page models: what the three regions of the page show for one outcome. Rendering fails only for data
without a length and for elapsed times that are no numbers.
-/
namespace QueryPlayground.Page

/-- Heading and rows of the statistics region. -/
structure Panel where
  heading : String
  entries : List (String × String)
  deriving DecidableEq, Repr, Inhabited

/-- The rows of a panel as one mapping: a label that comes again replaces the value. -/
def Panel.mapping (panel : Panel) : List (String × Json) :=
  panel.entries.foldl (fun members (label, value) => Json.setMember label (.str value) members) []

structure Model where
  content : Html
  badge : List Char
  stats : Panel
  statsHtml : Html
  succeeded : Bool
  sequence : Int
  deriving DecidableEq, Repr, Inhabited

/-- Why an outcome cannot be rendered. -/
inductive RenderFault where
  | notAnOutcome (kind : String)
  | withoutLength (kind : String)
  | elapsed (fault : Binary64.ConversionFault)
  deriving DecidableEq, Repr

def RenderFault.message : RenderFault → String
  | .notAnOutcome kind => s!"Cannot render outcome of type {kind}"
  | .withoutLength kind => s!"object of type '{kind}' has no len()"
  | .elapsed fault => fault.message

/-- An elapsed time in milliseconds with two places; a negative one reads as zero. -/
def elapsedText (elapsed : Binary64) : List Char := elapsed.clampToZero.fixedTwo

/-- The badge: how long the query took, and whether it succeeded. -/
def badge (elapsed : Binary64) (succeeded : Bool) : List Char :=
  (if succeeded then "⚡ " else "❌ ") ++ elapsedText elapsed ++ "ms"

/-- The class of the indicator that shows whether the service is reachable. -/
def statusClass (connected : Bool) : String :=
  if connected then "status-connected" else "status-disconnected"

/-- Shown in the results region while a query is on its way. -/
def loading : Html := "<div class=\"loading\"></div> Executing query..."

/-- A highlighted JSON text. -/
def jsonView (value : Json) : Html :=
  "<div class=\"json-view\">" ++ Highlight.highlight (Json.writeAt .indented 0 value) ++ "</div>"

/-- The text of a table cell. -/
def cellText : Json → List Char
  | .null => []
  | .bool true => "true"
  | .bool false => "false"
  | v => v.display.toList

/-- A row cut or filled up with blanks to the number of columns. -/
def alignRow (width : Nat) (row : List Json) : List (List Char) :=
  let cells := (row.take width).map cellText
  cells ++ List.replicate (width - cells.length) []

def headerCell (column : String) : Html := "<th>" ++ Html.escape column ++ "</th>"

def bodyCell (cell : List Char) : Html := "<td>" ++ Html.escape cell ++ "</td>"

def bodyRow (cells : List (List Char)) : Html := "<tr>" ++ cells.flatMap bodyCell ++ "</tr>"

/-- A table under its column names. -/
def tableView (columns : List String) (rows : List (List Json)) : Html :=
  if rows.isEmpty then "<p>No results found.</p>"
  else
    Html.lines (
      ("<div class=\"table-view\"><table>" : Html) ::
      ("<thead><tr>" ++ columns.flatMap headerCell ++ "</tr></thead>") ::
      ("<tbody>" : Html) ::
      (rows.map fun row => bodyRow (alignRow columns.length row)) ++
      [("</tbody></table></div>" : Html)])

def keyLine (key : String) : Html := "<div>\"" ++ Html.escape key ++ "\"</div>"

def keyListView (keys : List String) : Html :=
  "<div class=\"json-view\">" ++ keys.flatMap keyLine ++ "</div>"

def scalarView (figure : String) : Html :=
  "<div class=\"json-view\"><span class=\"json-number\">" ++ Html.escape figure ++ "</span></div>"

def successLine (message : String) : Html :=
  "<div class=\"status-line status-ok\" style=\"color: #10b981; font-weight: 600;\">✅ " ++
    Html.escape message ++ "</div>"

def failureLine (message : String) : Html :=
  "<div class=\"status-line status-error\" style=\"color: #ef4444; font-weight: 600;\">❌ Error: " ++
    Html.escape message ++ "</div>"

def entryLine (entry : String × String) : Html :=
  "<p><strong>" ++ Html.escape entry.1 ++ ":</strong> " ++ Html.escape entry.2 ++ "</p>"

def Panel.toHtml (panel : Panel) : Html :=
  Html.lines (("<h4>" ++ Html.escape panel.heading ++ "</h4>") :: panel.entries.map entryLine)

def natText (n : Nat) : String := String.ofList (Nat.toDigits 10 n)

/-- The number of items, members or characters of a value. -/
def size? : Json → Option Nat
  | .str s => some s.length
  | .arr items => some items.length
  | .obj members => some members.length
  | _ => none

/-- The contents of the results region and the statistics for an outcome. -/
def regions : Outcome → Except RenderFault (Html × Panel)
  | .table columns rows time =>
    .ok (tableView columns rows,
      ⟨"📈 Data Statistics",
        [("Records returned", natText rows.length), ("Server time", time.figure ++ "ms")]⟩)
  | .document data =>
    match size? data with
    | none => .error (.withoutLength data.kindName)
    | some n =>
      .ok (jsonView data,
        ⟨"📄 Document Info", [("Document type", "User Profile"), ("Fields", natText n)]⟩)
  | .cacheHit data =>
    .ok (jsonView data,
      ⟨"⚡ Cache Performance", [("Cache hit", "✅ Found in cache"), ("Data type", data.typeName)]⟩)
  | .scalar value message =>
    .ok (scalarView value.figure, ⟨"📊 Query Result", [("Result", message), ("Value", value.figure)]⟩)
  | .success message => .ok (successLine message, ⟨"✅ Operation Status", [("Status", "Success")]⟩)
  | .keyList keys =>
    .ok (keyListView keys, ⟨"🔑 Keys Found", [("Total keys", natText keys.length)]⟩)
  | .failure message =>
    .ok (failureLine message,
      ⟨"❌ Query Error",
        [("Status", "Failed"), ("Tip", "Try one of the sample queries to get started!")]⟩)

/-- The model of an outcome that took `elapsed` milliseconds. -/
def render (outcome : Outcome) (elapsed : Binary64) (sequence : Int) : Except RenderFault Model :=
  (regions outcome).map fun (content, stats) =>
    { content, stats, sequence
      badge := badge elapsed outcome.succeeded
      statsHtml := stats.toHtml
      succeeded := outcome.succeeded }

/-- The model of an outcome whose elapsed time may be any value. -/
def renderTimed (outcome : Outcome) (elapsed : Json) (sequence : Int) : Except RenderFault Model := do
  let _ ← regions outcome
  let elapsed ← elapsed.toNumber.mapError .elapsed
  render outcome elapsed sequence

/-- The model as one value, in which hosts receive it. -/
def Model.toJson (model : Model) : Json :=
  .obj [
    ("sequence", .int model.sequence),
    ("succeeded", .bool model.succeeded),
    ("badge", .str (String.ofList model.badge)),
    ("content", .str (String.ofList model.content)),
    ("stats", .obj [
      ("heading", .str model.stats.heading),
      ("entries", .arr (model.stats.entries.map fun (label, value) => .arr [.str label, .str value]))])]

end QueryPlayground.Page
