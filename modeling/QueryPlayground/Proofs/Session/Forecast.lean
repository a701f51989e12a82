import QueryPlayground.Session.Playground

/-! What a dispatch will say. The outcome of a dispatch is settled when it starts: by the mode and the
query it starts with, and by how often chance and the service have been asked until then. The clock
and the log have no part in it, so that whatever happens during the wait leaves it as it is. -/
namespace QueryPlayground

open Service

/-- How often chance and the two endpoints of the service have been asked. -/
structure Counts where
  draws : Nat
  healthReplies : Nat
  queryReplies : Nat
  deriving DecidableEq, Repr

def Trace.counts (trace : Trace) : Counts := ⟨trace.draws, trace.healthReplies, trace.queryReplies⟩

namespace Act

variable {α β : Type}

/-- What an activity gives, and the trace behind it. -/
def perform (act : Act α) (outside : Outside) (trace : Trace) : α × Trace := act outside trace

@[simp]
theorem perform_pure (a : α) (outside : Outside) (trace : Trace) :
    (pure a : Act α).perform outside trace = (a, trace) := rfl

@[simp]
theorem perform_bind (act : Act α) (next : α → Act β) (outside : Outside) (trace : Trace) :
    (act >>= next).perform outside trace =
      (next (act.perform outside trace).1).perform outside (act.perform outside trace).2 := rfl

@[simp]
theorem counts_log (level : Level) (message : String) (outside : Outside) (trace : Trace) :
    ((log level message).perform outside trace).2.counts = trace.counts := rfl

@[simp]
theorem counts_logAll (lines : List LogLine) (outside : Outside) (trace : Trace) :
    ((logAll lines).perform outside trace).2.counts = trace.counts := by
  induction lines generalizing trace with
  | nil => rfl
  | cons line lines ih =>
      exact ih ((effect (.log line)).perform outside trace).2

@[simp]
theorem counts_now (outside : Outside) (trace : Trace) :
    (now.perform outside trace).2.counts = trace.counts := rfl

/-- Chance gives its next number. -/
theorem perform_draw (outside : Outside) (trace : Trace) :
    (draw.perform outside trace).1 = outside.chance trace.counts.draws ∧
      (draw.perform outside trace).2.counts = { trace.counts with draws := trace.counts.draws + 1 } :=
  ⟨rfl, rfl⟩

/-- A request that posts a query takes the next reply of the query endpoint. -/
theorem perform_send_post {request : Request} (hMethod : request.method = .post) (outside : Outside)
    (trace : Trace) :
    ((send request).perform outside trace).1 = outside.query trace.counts.queryReplies request ∧
      ((send request).perform outside trace).2.counts =
        { trace.counts with queryReplies := trace.counts.queryReplies + 1 } := by
  obtain ⟨method, address, body⟩ := request
  cases hMethod
  exact ⟨rfl, rfl⟩

/-- A request for the health takes the next reply of the health endpoint. -/
theorem perform_send_get {request : Request} (hMethod : request.method = .get) (outside : Outside)
    (trace : Trace) :
    ((send request).perform outside trace).1 = outside.health trace.counts.healthReplies ∧
      ((send request).perform outside trace).2.counts =
        { trace.counts with healthReplies := trace.counts.healthReplies + 1 } := by
  obtain ⟨method, address, body⟩ := request
  cases hMethod
  exact ⟨rfl, rfl⟩

end Act

theorem Service.Client.method_of_request {client : Client} {method : Method} {path body : String}
    {request : Request} (h : client.request method path body = .ok request) : request.method = method := by
  unfold Client.request at h
  split at h
  · cases h
    rfl
  · cases h

/-- A tag names a mode just if its normal form is the tag of the mode. -/
theorem Mode.parse_eq_ok_iff {tag : String} {mode : Mode} :
    Mode.parse tag = .ok mode ↔ Mode.normalTag tag = mode.tag := by
  constructor
  · intro h
    unfold Mode.parse Mode.ofTag? at h
    cases hFind : Mode.all.find? fun mode => mode.tag == Mode.normalTag tag with
    | none =>
        rw [hFind] at h
        cases h
    | some found =>
        rw [hFind] at h
        obtain rfl : found = mode := Except.ok.inj h
        have hTag := List.find?_some hFind
        exact (eq_of_beq hTag).symm
  · intro h
    unfold Mode.parse Mode.ofTag?
    rw [h]
    cases mode <;> rfl

theorem Mode.parse_tag (mode : Mode) : Mode.parse mode.tag = .ok mode := by
  cases mode <;> rfl

/-- What a store says to a query. -/
def Store.forecast (store : Store) (query : String) : Except Escape Outcome :=
  (store.answer query).mapError .unreadable

/-- What the service says by its reply. -/
def Service.Client.forecast (client : Client) (reply : Reply) : Except Escape Outcome :=
  ((client.readOutcome reply).map Prod.fst).mapError .aborted

/-- What a dispatch will say after its wait. -/
def Flight.forecast (flight : Flight) : Except Escape Outcome :=
  match flight.wait with
  | .pause _ store => store.forecast flight.ticket.query
  | .reply client reply => client.forecast reply

namespace Dispatcher

/-- What a dispatch that starts now will say. -/
def forecast (dispatcher : Dispatcher) (outside : Outside) (counts : Counts) (query : String)
    (mode : Mode) : Except Escape Outcome :=
  match dispatcher.registry.engine mode with
  | .remote client =>
    match client.queryRequest query with
    | .error fault => .error (.aborted fault)
    | .ok request => client.forecast (outside.query counts.queryReplies request)
  | .stored store =>
    if dispatcher.latency then
      match (simulatedDelay (outside.chance counts.draws)).toDouble with
      | .error fault => .error (.delay fault)
      | .ok _ => store.forecast query
    else store.forecast query

/-- The counts once a dispatch has started. -/
def countsAfter (dispatcher : Dispatcher) (counts : Counts) (query : String) (mode : Mode) : Counts :=
  match dispatcher.registry.engine mode with
  | .remote client =>
    match client.queryRequest query with
    | .error _ => counts
    | .ok _ => { counts with queryReplies := counts.queryReplies + 1 }
  | .stored _ => if dispatcher.latency then { counts with draws := counts.draws + 1 } else counts

end Dispatcher

/-- A dispatch has ended as it was forecast, at whatever time. -/
def Says (ticket : Ticket) (forecast : Except Escape Outcome) (result : Except Escape Completion) : Prop :=
  ∃ finished, result = forecast.map fun outcome => ⟨ticket, outcome, finished⟩

/-- A dispatch that was begun holds to the forecast and carries its number. -/
inductive Begun.Fulfils (forecast : Except Escape Outcome) (sequence : Nat) : Begun → Prop where
  | waiting {flight : Flight} (hForecast : flight.forecast = forecast)
      (hSequence : flight.ticket.sequence = sequence) : Fulfils forecast sequence (.waiting flight)
  | through (ticket : Ticket) {result : Except Escape Completion} (hSequence : ticket.sequence = sequence)
      (hSays : Says ticket forecast result) : Fulfils forecast sequence (.through result)

namespace Dispatcher

variable (outside : Outside) (trace : Trace)

theorem conclude_says (ticket : Ticket) (outcome : Outcome) :
    Says ticket (.ok outcome) (.ok ((conclude ticket outcome).perform outside trace).1) ∧
      ((conclude ticket outcome).perform outside trace).2.counts = trace.counts := by
  refine ⟨⟨(Act.now.perform outside trace).1, rfl⟩, ?_⟩
  simp only [conclude, Act.perform_bind, Act.perform_pure, Act.counts_log, Act.counts_now]

theorem settle_says (ticket : Ticket) (store : Store) :
    Says ticket (store.forecast ticket.query) ((settle ticket store).perform outside trace).1 ∧
      ((settle ticket store).perform outside trace).2.counts = trace.counts := by
  unfold settle Store.forecast
  cases store.answer ticket.query with
  | ok outcome =>
      obtain ⟨hSays, hCounts⟩ := conclude_says outside trace ticket outcome
      exact ⟨hSays, hCounts⟩
  | error fault => exact ⟨⟨.zero, rfl⟩, rfl⟩

/-- A dispatch ends as its flight forecasts, and asks for nothing more. -/
theorem finish_says (flight : Flight) :
    Says flight.ticket flight.forecast ((finish flight).perform outside trace).1 ∧
      ((finish flight).perform outside trace).2.counts = trace.counts := by
  obtain ⟨ticket, wait⟩ := flight
  cases wait with
  | pause seconds store =>
      obtain ⟨hSays, hCounts⟩ := settle_says outside ((Act.wake seconds).perform outside trace).2 ticket store
      exact ⟨hSays, hCounts⟩
  | reply client reply =>
      simp only [finish, Flight.forecast, Client.forecast]
      cases client.readOutcome reply with
      | error abort => exact ⟨⟨.zero, rfl⟩, rfl⟩
      | ok read =>
          obtain ⟨outcome, lines⟩ := read
          obtain ⟨hSays, hCounts⟩ := conclude_says outside ((Act.logAll lines).perform outside trace).2
            ticket outcome
          exact ⟨hSays, hCounts.trans (Act.counts_logAll lines outside trace)⟩

theorem launch_fulfils (dispatcher : Dispatcher) (ticket : Ticket) (mode : Mode) :
    ((launch dispatcher.latency ticket (dispatcher.registry.engine mode)).perform outside trace).1.Fulfils
        (dispatcher.forecast outside trace.counts ticket.query mode) ticket.sequence ∧
      ((launch dispatcher.latency ticket (dispatcher.registry.engine mode)).perform outside trace).2.counts =
        dispatcher.countsAfter trace.counts ticket.query mode := by
  unfold forecast countsAfter launch
  cases dispatcher.registry.engine mode with
  | remote client =>
      dsimp only
      cases hRequest : client.queryRequest ticket.query with
      | error fault => exact ⟨.through ticket rfl ⟨.zero, rfl⟩, rfl⟩
      | ok request =>
          obtain ⟨hReply, hCounts⟩ :=
            Act.perform_send_post (Client.method_of_request hRequest) outside trace
          exact ⟨.waiting (congrArg client.forecast hReply) rfl, hCounts⟩
  | stored store =>
      dsimp only
      split
      · obtain ⟨hDraw, hCounts⟩ := Act.perform_draw outside trace
        simp only [Act.perform_bind, hDraw]
        cases (simulatedDelay (outside.chance trace.counts.draws)).toDouble with
        | error fault => exact ⟨.through ticket rfl ⟨.zero, rfl⟩, hCounts⟩
        | ok milliseconds => exact ⟨.waiting rfl rfl, hCounts⟩
      · obtain ⟨hSays, hCounts⟩ := settle_says outside trace ticket store
        exact ⟨.through ticket rfl hSays, hCounts⟩

/-- A dispatch takes the next number and holds to its forecast. -/
theorem start_fulfils (dispatcher : Dispatcher) (query : String) (mode : Mode) :
    ((dispatcher.start query mode.tag).perform outside trace).1.1 =
        { dispatcher with issued := dispatcher.issued + 1 } ∧
      ((dispatcher.start query mode.tag).perform outside trace).1.2.Fulfils
        (dispatcher.forecast outside trace.counts query mode) (dispatcher.issued + 1) ∧
      ((dispatcher.start query mode.tag).perform outside trace).2.counts =
        dispatcher.countsAfter trace.counts query mode := by
  unfold start
  rw [Mode.parse_tag]
  simp only [Act.perform_bind, Act.perform_pure, true_and]
  exact launch_fulfils outside ((Act.log .debug _).perform outside (Act.now.perform outside trace).2).2
    { dispatcher with issued := dispatcher.issued + 1 }
    ⟨query, some mode, dispatcher.issued + 1, (Act.now.perform outside trace).1⟩ mode

end Dispatcher

-- From here on activities are known by what has been stated of them, and are not unfolded again.
attribute [irreducible] Act.perform

end QueryPlayground
