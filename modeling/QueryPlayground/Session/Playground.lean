import QueryPlayground.Page.Surface
import QueryPlayground.Session.Dispatch
import QueryPlayground.Settings.Basic

/-!
A playground is one user's session: the selected mode, the last health report, and the three regions on
display. Queries run against the mode that is selected when they start.
-/
namespace QueryPlayground

open Service

/-- The selected mode, and what the last health report said. -/
structure Selection where
  mode : Mode
  health : Health
  deriving Repr, Inhabited

namespace Selection

def initial (mode : Mode) : Selection := ⟨mode, .unknown⟩

/-- Selects the mode that a tag names; an unknown tag changes nothing. -/
def switch (selection : Selection) (tag : String) : Except Refusal Selection :=
  (Mode.parse tag).map fun mode => { selection with mode }

def title (selection : Selection) : String := selection.mode.title

/-- The samples for the selected mode. Those for SQL come from the service. -/
def samples (selection : Selection) : List Sample :=
  match selection.mode with
  | .sql => selection.health.samples
  | .document => Sample.documents
  | .cache => Sample.cache

/-- What stands in the editor first: the first sample, or a hint. -/
def defaultQuery (selection : Selection) : String :=
  match selection.samples with
  | [] => "Enter your query..."
  | sample :: _ => sample.query

end Selection

structure Playground where
  selection : Selection
  dispatcher : Dispatcher
  surface : Page.Surface
  deriving Repr

/-- An execution that has been started: it waits, or its model is there already. -/
inductive Pending where
  | waiting (flight : Flight)
  | through (result : Except Escape Page.Model)

namespace Playground

/-- A playground on which nothing has happened yet. -/
def fresh (client : Client) (latency : Bool) (mode : Mode) (stamp : Int) : Playground where
  selection := .initial mode
  dispatcher := ⟨.seeded client stamp, latency, 0⟩
  surface := .empty

/-- The playground that settings describe, if the word that they hold for the mode names one. -/
def ofSettings (settings : Settings) (stamp : Int) : Except Refusal Playground :=
  (Mode.parse settings.defaultMode).map fun mode =>
    fresh (.make settings.baseUrl settings.healthPath settings.queryPath) settings.simulateLatency mode stamp

def switch (playground : Playground) (tag : String) : Except Refusal Playground :=
  (playground.selection.switch tag).map fun selection => { playground with selection }

def sampleList (playground : Playground) : Html := Page.sampleList playground.selection.samples

/-- Asks the service for its health and keeps what it reports. -/
def connect (playground : Playground) : Act (Playground × Except Abort Health) := do
  let client := playground.dispatcher.registry.client
  let reply ← Act.exchange client.healthRequest
  match client.readHealth reply with
  | .error abort => return (playground, .error abort)
  | .ok (health, lines) =>
    Act.logAll lines
    Act.log .debug s!"service status: {Page.statusClass health.connected}"
    return ({ playground with selection := { playground.selection with health } }, .ok health)

/-- Shows the model of a completed dispatch. -/
def publish (playground : Playground) (result : Except Escape Completion) :
    Playground × Except Escape Page.Model :=
  match result.bind Completion.render with
  | .ok model => ({ playground with surface := playground.surface.apply model }, .ok model)
  | .error escape => (playground, .error escape)

/-- Starts a query: the placeholder is shown, and the dispatch goes on up to its wait. -/
def start (playground : Playground) (query : String) : Act (Playground × Pending) := do
  let playground := { playground with surface := playground.surface.showLoading Page.loading }
  let (dispatcher, begun) ←
    playground.dispatcher.start (Text.trim query) playground.selection.mode.tag
  let playground := { playground with dispatcher }
  match begun with
  | .waiting flight => return (playground, .waiting flight)
  | .through result =>
    let (playground, result) := playground.publish result
    return (playground, .through result)

/-- Finishes a query that was started. -/
def finish (playground : Playground) : Pending → Act (Playground × Except Escape Page.Model)
  | .through result => return (playground, result)
  | .waiting flight => do return playground.publish (← Dispatcher.finish flight)

/-- Runs a query from its start to its end. -/
def execute (playground : Playground) (query : String) :
    Act (Playground × Except Escape Page.Model) := do
  let (playground, pending) ← playground.start query
  playground.finish pending

end Playground
end QueryPlayground
