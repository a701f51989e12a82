import QueryPlayground.Engine.Payload
import QueryPlayground.Json.Writer
import QueryPlayground.Service.Address
import QueryPlayground.Service.Body
import QueryPlayground.Service.Health

/-!
The client of the remote service. An exchange is a request and the reply to it; what the client makes of
a reply is a function of the reply alone, together with the lines that it logs.
-/
namespace QueryPlayground

/-- The levels of log lines. -/
inductive Level where
  | debug
  | info
  | success
  | warning
  | error
  deriving DecidableEq, Repr

/-- A line for the log. -/
structure LogLine where
  level : Level
  message : String
  deriving DecidableEq, Repr

namespace Service

/-- What the client asks for. -/
inductive Method where
  | get
  | post
  deriving DecidableEq, Repr

def Method.name : Method → String
  | .get => "GET"
  | .post => "POST"

structure Request where
  method : Method
  address : String
  body : String
  deriving DecidableEq, Repr

/-- Faults that are no part of an exchange and end the whole execution. -/
inductive Abortion where
  | badAddress
  | cookieConflict
  | streamState
  | runtime
  | value
  deriving DecidableEq, Repr

/-- How an exchange ends: with a response, with a failure of the transport, or not at all. -/
inductive Reply where
  | response (status : Int) (body : List UInt8)
  | failure (message : String)
  | abort (cause : Abortion) (message : String)
  deriving DecidableEq, Repr

/-- The characters that stand for the surrogates in a reply. -/
def Reply.standIns : Reply → List Char
  | .response _ body => bodyStandIns body
  | _ => []

/-- An execution that an exchange has ended. -/
structure Abort where
  cause : Abortion
  message : String
  deriving DecidableEq, Repr

/-- Where the service is found. -/
structure Client where
  base : String
  healthPath : String
  queryPath : String
  deriving DecidableEq, Repr

namespace Client

/-- A client for a base address, whose slashes at the end do not count. -/
def make (base healthPath queryPath : String) : Client :=
  ⟨Text.dropTrailing '/' base, healthPath, queryPath⟩

def url (client : Client) (path : String) : String := endpoint client.base path

/-- A request for an endpoint; there is none when the address of the endpoint is faulty. -/
def request (client : Client) (method : Method) (path body : String) : Except Abort Request :=
  match Address.normalize (client.url path) with
  | .ok address => .ok ⟨method, address, body⟩
  | .error fault => .error ⟨.badAddress, fault.message⟩

/-- The JSON value of a reply, or why the exchange failed. -/
def replyValue (method : Method) (url : String) : Reply → Except Abort (Except String Json)
  | .abort cause message => .error ⟨cause, message⟩
  | .failure message => .ok (.error s!"{method.name} {url} failed: {message}")
  | .response status body =>
    match bodyValue? body with
    | some value => .ok (.ok value)
    | none => .ok (.error s!"{method.name} {url} returned a non-JSON body (HTTP {status})")

/-- The object under `data` in an object. -/
def envelopeData? (body : Json) : Option Json :=
  match body.field "data" with
  | .obj members => some (.obj members)
  | _ => none

def healthRequest (client : Client) : Except Abort Request := client.request .get client.healthPath ""

def queryRequest (client : Client) (sql : String) : Except Abort Request :=
  client.request .post client.queryPath (Json.write .compact (.obj [("sql", .str sql)]))

/-- The health that the value of a reply reports. -/
def healthOf : Except String Json → Health × List LogLine
  | .error failure =>
    (.disconnected (.str failure), [⟨.warning, s!"Health check failed: {failure}"⟩])
  | .ok body =>
    match envelopeData? body with
    | none => (.disconnected (.str "Health response carried no data"), [])
    | some data =>
      match Health.read data with
      | .ok health =>
        (health, [⟨.debug, s!"tableNames {(Json.arr (health.tables.map .str)).display}"⟩])
      | .error fault =>
        (.disconnected (.str s!"Malformed health response: {fault.message}"),
          [⟨.warning, s!"Health response was malformed: {fault.message}"⟩])

/-- What the health endpoint's reply tells; every failure reads as disconnected. -/
def readHealth (client : Client) (reply : Reply) : Except Abort (Health × List LogLine) :=
  (replyValue .get (client.url client.healthPath) reply).map healthOf

/-- The payload in the query endpoint's reply. -/
def readPayload (client : Client) (reply : Reply) : Except Abort (Except String (Option Json)) :=
  (replyValue .post (client.url client.queryPath) reply).map fun value => value.map envelopeData?

/-- The outcome of a statement by the query endpoint's reply; every failure gives the empty table. -/
def readOutcome (client : Client) (reply : Reply) : Except Abort (Outcome × List LogLine) :=
  (client.readPayload reply).map fun
    | .ok (some payload) => (Payload.outcome payload, [])
    | .ok none => (Payload.emptyTable, [])
    | .error failure =>
      (Payload.emptyTable,
        [⟨.warning, s!"SQL service unavailable, showing an empty result: {failure}"⟩])

end Client
end Service
end QueryPlayground
