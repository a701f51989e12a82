import QueryPlayground.Engine.Sample
import QueryPlayground.Json.Access

/-!
The health of the remote service, as its health endpoint reports it. Samples and table names are read
element by element, and the first element of the wrong shape spoils the report.
-/
namespace QueryPlayground

structure Health where
  connected : Bool
  samples : List Sample
  tables : List String
  message : Json
  deriving Repr, Inhabited

namespace Health

/-- What is known when the service cannot be reached. -/
def disconnected (message : Json) : Health := ⟨false, [], [], message⟩

/-- What is known before the first report. -/
def unknown : Health := disconnected .null

def readSample (value : Json) : Except AccessFault Sample := do
  let title ← value.item "title"
  let query ← value.item "query"
  pure ⟨title.display, query.display⟩

/-- Reads a report: the samples, then the table names. -/
def read (report : Json) : Except AccessFault Health := do
  let samples ← (← (report.field "sampleQueries").elementsOrNone).mapM readSample
  let tables ← (report.field "tableNames").elementsOrNone
  pure ⟨(report.field "connected").isTruthy, samples, tables.map Json.display, report.field "message"⟩

end Health
end QueryPlayground
