import QueryPlayground.Engine.Registry
import QueryPlayground.Page.Model
import QueryPlayground.Session.Outside

/-!
Dispatching queries. Each dispatch has a number of its own, waits at most once, and is timed by the
clock; what happens before the wait and what happens after it are separate, so that dispatches may
overlap. Refusals end as failure outcomes.
-/
namespace QueryPlayground

open Service

/-- Why a dispatch has no result. -/
inductive Escape where
  | unreadable (fault : Json.ReadFault)
  | aborted (abort : Abort)
  | unrendered (fault : Page.RenderFault)
  | delay (fault : Binary64.ConversionFault)
  deriving DecidableEq, Repr

def Escape.message : Escape → String
  | .unreadable fault => fault.message
  | .aborted abort => abort.message
  | .unrendered fault => fault.message
  | .delay fault => fault.message

/-- A dispatch as it was begun. -/
structure Ticket where
  query : String
  mode : Option Mode
  sequence : Nat
  started : Binary64
  deriving DecidableEq, Repr

/-- A dispatch with its outcome. -/
structure Completion where
  ticket : Ticket
  outcome : Outcome
  finished : Binary64
  deriving Repr

/-- The time between two readings of the clock in milliseconds, never negative. -/
def elapsedMs (started finished : Binary64) : Binary64 :=
  ((finished - started) * Binary64.ofInt 1000).clampToZero

namespace Completion

def elapsed (done : Completion) : Binary64 := elapsedMs done.ticket.started done.finished

def render (done : Completion) : Except Escape Page.Model :=
  (Page.render done.outcome done.elapsed done.ticket.sequence).mapError .unrendered

end Completion

/-- What a dispatch waits for: the end of a pause, after which a store answers, or a reply. -/
inductive Wait where
  | pause (seconds : Binary64) (store : Store)
  | reply (client : Client) (reply : Reply)
  deriving Repr

/-- A dispatch that waits. -/
structure Flight where
  ticket : Ticket
  wait : Wait
  deriving Repr

/-- A dispatch that has been begun: it waits, or it is through already. -/
inductive Begun where
  | waiting (flight : Flight)
  | through (result : Except Escape Completion)

/-- The pause of a store in milliseconds, by a number between zero and one. -/
def simulatedDelay (chance : Amount) : Amount := chance.scale 200 100

structure Dispatcher where
  registry : Registry
  latency : Bool
  issued : Nat
  deriving Repr

namespace Dispatcher

/-- Ends a dispatch with an outcome. -/
def conclude (ticket : Ticket) (outcome : Outcome) : Act Completion := do
  let done : Completion := ⟨ticket, outcome, ← Act.now⟩
  Act.log .debug
    s!"dispatch #{ticket.sequence} finished as {outcome.kindWord} in {String.ofList done.elapsed.fixedTwo}ms"
  return done

/-- Ends a dispatch with a store's answer. -/
def settle (ticket : Ticket) (store : Store) : Act (Except Escape Completion) := do
  match store.answer ticket.query with
  | .ok outcome => return .ok (← conclude ticket outcome)
  | .error fault => return .error (.unreadable fault)

/-- Begins a dispatch whose mode is known. -/
def launch (latency : Bool) (ticket : Ticket) : Engine → Act Begun
  | .remote client => do
    match client.queryRequest ticket.query with
    | .error fault => return .through (.error (.aborted fault))
    | .ok request => return .waiting ⟨ticket, .reply client (← Act.send request)⟩
  | .stored store => do
    if latency then
      match (simulatedDelay (← Act.draw)).toDouble with
      | .error fault => return .through (.error (.delay fault))
      | .ok milliseconds =>
        let seconds := milliseconds / Binary64.ofInt 1000
        Act.sleep seconds
        return .waiting ⟨ticket, .pause seconds store⟩
    else
      return .through (← settle ticket store)

/-- Begins a dispatch: it takes the next number, and goes on up to its wait. -/
def start (dispatcher : Dispatcher) (query tag : String) : Act (Dispatcher × Begun) := do
  let sequence := dispatcher.issued + 1
  let dispatcher := { dispatcher with issued := sequence }
  let started ← Act.now
  match Mode.parse tag with
  | .error refusal =>
    let done ← conclude ⟨query, none, sequence, started⟩ (.failure refusal.message)
    return (dispatcher, .through (.ok done))
  | .ok mode =>
    Act.log .debug s!"dispatch #{sequence} [{mode.tag}] {Text.quoted query}"
    let begun ← launch dispatcher.latency ⟨query, some mode, sequence, started⟩
      (dispatcher.registry.engine mode)
    return (dispatcher, begun)

/-- Goes on with a dispatch after its wait. -/
def finish (flight : Flight) : Act (Except Escape Completion) := do
  match flight.wait with
  | .pause seconds store =>
    Act.wake seconds
    settle flight.ticket store
  | .reply client reply =>
    match client.readOutcome reply with
    | .error abort => return .error (.aborted abort)
    | .ok (outcome, lines) =>
      Act.logAll lines
      return .ok (← conclude flight.ticket outcome)

/-- A dispatch without anything in between. -/
def run (dispatcher : Dispatcher) (query tag : String) :
    Act (Dispatcher × Except Escape Completion) := do
  let (dispatcher, begun) ← dispatcher.start query tag
  match begun with
  | .through result => return (dispatcher, result)
  | .waiting flight => return (dispatcher, ← finish flight)

end Dispatcher
end QueryPlayground
