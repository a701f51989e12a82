import QueryPlayground.Binary64.Amount
import QueryPlayground.Service.Client

/-!
The world outside a session: a clock, a source of chance, and the remote service. A trace tells how much
of it has been used up and what has been done to it, so that everything a session does is a function of
the outside and the trace so far.
-/
namespace QueryPlayground

open Service

/-- Where a text is printed: with the results, or with the diagnostics. -/
inductive Channel where
  | results
  | diagnostics
  deriving DecidableEq, Repr

/-- Something that is done to the outside. -/
inductive Effect where
  | log (line : LogLine)
  | request (request : Request)
  | sleep (seconds : Binary64)
  | print (channel : Channel) (text : List Char)
  deriving DecidableEq, Repr

/-- What the clock has shown, how often chance and the service were asked, the pauses that are over, the
characters that stand for surrogates in the last reply, and the effects in order. -/
structure Trace where
  readings : List Binary64
  draws : Nat
  healthReplies : Nat
  queryReplies : Nat
  pauses : List Binary64
  standIns : List Char
  effects : List Effect
  deriving DecidableEq, Repr, Inhabited

def Trace.start : Trace := ⟨[], 0, 0, 0, [], [], []⟩

/-- What the outside answers: chance and the service the first time, the second time and so on, and the
clock whatever it likes after all that has happened. -/
structure Outside where
  clock : Trace → Binary64
  chance : Nat → Amount
  health : Nat → Reply
  query : Nat → Request → Reply

/-- An activity that may ask the outside. -/
abbrev Act (α : Type) := ReaderT Outside (StateM Trace) α

namespace Act

def effect (e : Effect) : Act Unit := modify fun trace => { trace with effects := trace.effects ++ [e] }

def log (level : Level) (message : String) : Act Unit := effect (.log ⟨level, message⟩)

def logAll (lines : List LogLine) : Act Unit := lines.forM fun line => effect (.log line)

/-- Reads the clock. -/
def now : Act Binary64 := do
  let trace ← get
  let reading := (← read).clock trace
  set { trace with readings := trace.readings ++ [reading] }
  return reading

/-- A number by chance. -/
def draw : Act Amount := do
  let trace ← get
  set { trace with draws := trace.draws + 1 }
  return (← read).chance trace.draws

/-- Asks to be woken after some seconds. -/
def sleep (seconds : Binary64) : Act Unit := effect (.sleep seconds)

/-- Is woken after some seconds. -/
def wake (seconds : Binary64) : Act Unit :=
  modify fun trace => { trace with pauses := trace.pauses ++ [seconds] }

/-- Sends a request and takes the reply that is meant for it. -/
def send (request : Request) : Act Reply := do
  effect (.request request)
  let trace ← get
  match request.method with
  | .get =>
    let reply := (← read).health trace.healthReplies
    set { trace with healthReplies := trace.healthReplies + 1, standIns := reply.standIns }
    return reply
  | .post =>
    let reply := (← read).query trace.queryReplies request
    set { trace with queryReplies := trace.queryReplies + 1, standIns := reply.standIns }
    return reply

/-- The reply to a request, or what kept the request from being made. -/
def exchange : Except Abort Request → Act Reply
  | .ok request => send request
  | .error fault => return .abort fault.cause fault.message

end Act
end QueryPlayground
