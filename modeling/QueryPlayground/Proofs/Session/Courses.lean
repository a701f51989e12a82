import QueryPlayground.Proofs.Session.Desk

/-! The course of a dispatch. What a dispatch does depends on its tag and its query, and on the latency, but
not on the dispatches that overlap with it: it reads the clock when it starts and when it ends, and in between
it posts its query once, pauses once, or does nothing at all. -/
namespace QueryPlayground

open Service

/-! ### What one dispatch does -/

namespace Service

/-- Replies that are no JSON text: the transport failed, or the body is something else. -/
inductive Reply.IsFault : Reply → Prop where
  | failed (message : String) : IsFault (.failure message)
  | unreadable {status : Int} {body : List UInt8} (hBody : bodyValue? body = none) :
      IsFault (.response status body)

/-- The lines that are logged for a reply: one warning for a fault, and nothing else. -/
def Reply.Warns (reply : Reply) (lines : List LogLine) : Prop :=
  (reply.IsFault → ∃ message, lines = [⟨.warning, message⟩]) ∧ (¬reply.IsFault → lines = [])

theorem Reply.Warns.doings {reply : Reply} {lines : List LogLine} (h : reply.Warns lines) :
    (lines.map Effect.log).filter (fun effect => !effect.isDebug) = lines.map .log := by
  by_cases hFault : reply.IsFault
  · obtain ⟨message, rfl⟩ := h.1 hFault
    rfl
  · rw [h.2 hFault]
    rfl

/-- A reply that is no abort gives an outcome, and is warned of if it is a fault. -/
theorem Client.exists_readOutcome (client : Client) {reply : Reply}
    (hReply : ∀ cause message, reply ≠ .abort cause message) :
    ∃ outcome lines, client.readOutcome reply = .ok (outcome, lines) ∧ reply.Warns lines := by
  cases reply with
  | abort cause message => exact absurd rfl (hReply cause message)
  | failure message => exact ⟨_, _, rfl, fun _ => ⟨_, rfl⟩, fun h => absurd (.failed message) h⟩
  | response status body =>
      simp only [readOutcome, readPayload, replyValue]
      cases hBody : bodyValue? body with
      | none => exact ⟨_, _, rfl, fun _ => ⟨_, rfl⟩, fun h => absurd (.unreadable hBody) h⟩
      | some value =>
          have hSound : ¬(Reply.response status body).IsFault := by
            rintro (_ | ⟨hNone⟩)
            rw [hBody] at hNone
            cases hNone
          simp only [Except.map]
          cases envelopeData? value with
          | none => exact ⟨_, _, rfl, fun h => absurd h hSound, fun _ => rfl⟩
          | some payload => exact ⟨_, _, rfl, fun h => absurd h hSound, fun _ => rfl⟩

end Service

namespace Dispatch

/-- A dispatch has read the clock twice, when it started and when it ended, and its time comes from the two
readings alone: the milliseconds between them, or zero if these are not positive. -/
def Timed (dispatch : Dispatch) (done : Completion) : Prop :=
  ∃ opening ending first last,
    dispatch.stretches.head? = some opening ∧ dispatch.stretches.getLast? = some ending ∧
    dispatch.readings = [first, last] ∧ first ∈ opening.readings ∧ last ∈ ending.readings ∧
    done.elapsed =
      let milliseconds := (last.1 - first.1) * Binary64.ofInt 1000
      if Binary64.lt .zero milliseconds then milliseconds else .zero

/-- A dispatch that does nothing but read the clock. -/
def Idle (dispatch : Dispatch) : Prop := dispatch.draws = [] ∧ dispatch.replies = [] ∧ dispatch.doings = []

/-- A dispatch that posts its query, once, and warns if the reply is a fault. -/
def Posts (outside : Outside) (client : Client) (dispatch : Dispatch) : Prop :=
  ∃ request place lines, client.queryRequest dispatch.query = .ok request ∧ request.method = .post ∧
    (outside.query place request).Warns lines ∧
    dispatch.draws = [] ∧ dispatch.replies = [place] ∧ dispatch.doings = .request request :: lines.map .log

/-- A dispatch that draws one number by chance and sleeps for as long as it says, before its store is asked. -/
def Pauses (outside : Outside) (dispatch : Dispatch) : Prop :=
  ∃ opening closing place x, dispatch.stretches = [opening, closing] ∧ outside.chance place = .real x ∧
    dispatch.draws = [place] ∧ dispatch.replies = [] ∧
    opening.doings = [.sleep ((x * Binary64.ofInt 200 + Binary64.ofInt 100) / Binary64.ofInt 1000)] ∧
    closing.doings = []

/-- What a dispatch does beside reading the clock, by its tag. -/
def Course (outside : Outside) (client : Client) (latency : Bool) (dispatch : Dispatch) : Prop :=
  match Mode.parse dispatch.tag with
  | .error _ => dispatch.Idle
  | .ok .sql => dispatch.Posts outside client
  | .ok _ => if latency then dispatch.Pauses outside else dispatch.Idle

/-- A dispatch that has begun and waits: for the reply to the query that it has posted, or for the end of its
pause, behind which its store has an answer. -/
inductive Ready (outside : Outside) (client : Client) (latency : Bool) : Dispatch → Prop where
  | reply {query tag : String} {opening : Stretch} {ticket : Ticket} {request : Request}
      (hMode : Mode.parse tag = .ok .sql) (hRequest : client.queryRequest query = .ok request)
      (hOpening : opening.Does [ticket.started] 0 1 [.request request]) :
      Ready outside client latency ⟨query, tag, [opening],
        .waiting ⟨ticket, .reply client (outside.query opening.before.queryReplies request)⟩⟩
  | pause {query tag : String} {opening : Stretch} {ticket : Ticket} {mode : Mode} {store : Store} {x : Binary64}
      {outcome : Outcome} (hMode : Mode.parse tag = .ok mode) (hLocal : mode ≠ .sql) (hLatency : latency = true)
      (hChance : outside.chance opening.before.draws = .real x) (hAnswer : store.answer ticket.query = .ok outcome)
      (hOpening : opening.Does [ticket.started] 1 0 [.sleep (pauseSeconds x)]) :
      Ready outside client latency ⟨query, tag, [opening], .waiting ⟨ticket, .pause (pauseSeconds x) store⟩⟩

/-- A dispatch that has come through, with all that it was to do and nothing else. -/
structure Ended (outside : Outside) (client : Client) (latency : Bool) (dispatch : Dispatch) : Prop where
  through : ∃ done, dispatch.state = .through (.ok done) ∧ dispatch.Timed done
  course : dispatch.Course outside client latency

variable {outside : Outside} {query tag : String} {opening closing : Stretch} {state : Begun} {ticket : Ticket}
  {outcome : Outcome} {started finished : Binary64} {draws draws' replies replies' : Nat}
  {doings doings' : List Effect}

/-- The time of a dispatch that has waited. -/
theorem timed_of_wait (hOpening : opening.Does [ticket.started] draws replies doings)
    (hClosing : closing.Does [finished] draws' replies' doings') :
    Timed ⟨query, tag, [opening, closing], state⟩ ⟨ticket, outcome, finished⟩ := by
  have hFirst : opening.readings = [(ticket.started, opening.before.readings.length)] := hOpening.readings
  have hLast : closing.readings = [(finished, closing.before.readings.length)] := hClosing.readings
  refine ⟨opening, closing, (ticket.started, opening.before.readings.length),
    (finished, closing.before.readings.length), rfl, rfl, ?_, ?_, ?_, rfl⟩
  · rw [readings, List.flatMap_cons, List.flatMap_singleton, hFirst, hLast, List.singleton_append]
  · rw [hFirst]
    exact List.mem_singleton_self _
  · rw [hLast]
    exact List.mem_singleton_self _

/-- The time of a dispatch that was over at once. -/
theorem timed_of_once (hOpening : opening.Does [ticket.started, finished] draws replies doings) :
    Timed ⟨query, tag, [opening], state⟩ ⟨ticket, outcome, finished⟩ := by
  have hBoth : opening.readings = [(ticket.started, opening.before.readings.length),
      (finished, opening.before.readings.length + 1)] := hOpening.readings
  refine ⟨opening, opening, (ticket.started, opening.before.readings.length),
    (finished, opening.before.readings.length + 1), rfl, rfl, ?_, ?_, ?_, rfl⟩
  · rw [readings, List.flatMap_singleton, hBoth]
  · rw [hBoth]
    exact List.mem_cons_self
  · rw [hBoth]
    exact List.mem_cons_of_mem _ (List.mem_singleton_self _)

theorem idle_of_once (hOpening : opening.Does [started, finished] 0 0 []) : Idle ⟨query, tag, [opening], state⟩ := by
  refine ⟨?_, ?_, ?_⟩
  · rw [Dispatch.draws, List.flatMap_singleton, hOpening.draws, List.range'_zero]
  · rw [Dispatch.replies, List.flatMap_singleton, hOpening.replies, List.range'_zero]
  · rw [Dispatch.doings, List.flatMap_singleton, hOpening.doings]

theorem posts_of_wait {client : Client} {request : Request} {place : Nat} {lines : List LogLine}
    (hRequest : client.queryRequest query = .ok request) (hPlace : opening.before.queryReplies = place)
    (hWarns : (outside.query place request).Warns lines)
    (hOpening : opening.Does [started] 0 1 [.request request])
    (hClosing : closing.Does [finished] 0 0 (lines.map .log)) :
    Posts outside client ⟨query, tag, [opening, closing], state⟩ := by
  refine ⟨request, place, lines, hRequest, Client.method_of_request hRequest, hWarns, ?_, ?_, ?_⟩
  · simp [Dispatch.draws, hOpening.draws, hClosing.draws]
  · simp [Dispatch.replies, hOpening.replies, hClosing.replies, hPlace]
  · simp [Dispatch.doings, hOpening.doings, hClosing.doings]

theorem pauses_of_wait {x : Binary64} (hChance : outside.chance opening.before.draws = .real x)
    (hOpening : opening.Does [started] 1 0 [.sleep (pauseSeconds x)])
    (hClosing : closing.Does [finished] 0 0 []) :
    Pauses outside ⟨query, tag, [opening, closing], state⟩ := by
  refine ⟨opening, closing, opening.before.draws, x, rfl, hChance, ?_, ?_, hOpening.doings, hClosing.doings⟩
  · simp [Dispatch.draws, hOpening.draws, hClosing.draws]
  · simp [Dispatch.replies, hOpening.replies, hClosing.replies]

theorem course_local {stretches : List Stretch} {client : Client} {latency : Bool} {mode : Mode}
    (hMode : Mode.parse tag = .ok mode) (hLocal : mode ≠ .sql) :
    Course outside client latency ⟨query, tag, stretches, state⟩ ↔
      if latency then Pauses outside ⟨query, tag, stretches, state⟩ else Idle ⟨query, tag, stretches, state⟩ := by
  unfold Course
  rw [hMode]
  cases mode with
  | sql => exact absurd rfl hLocal
  | document => exact .rfl
  | cache => exact .rfl

end Dispatch

namespace Desk

variable {outside : Outside} {client : Client} {latency : Bool}

/-- The end of a wait brings a dispatch through. -/
theorem ended_of_ready (hReplies : ∀ n request cause message, outside.query n request ≠ .abort cause message)
    {query tag : String} {stretches : List Stretch} {flight : Flight}
    (h : Dispatch.Ready outside client latency ⟨query, tag, stretches, .waiting flight⟩) (trace : Trace) :
    let (result, after) := (Dispatcher.finish flight).perform outside trace
    Dispatch.Ended outside client latency ⟨query, tag, stretches ++ [⟨trace, after⟩], .through result⟩ := by
  cases h with
  | @reply _ _ opening ticket request hMode hRequest hOpening =>
      obtain ⟨outcome, lines, hRead, hWarns⟩ :=
        client.exists_readOutcome (hReplies opening.before.queryReplies request)
      obtain ⟨finished, after, hFinish, hClosing⟩ := Dispatcher.finish_reply outside trace ticket hRead
      rw [hWarns.doings] at hClosing
      rw [hFinish]
      refine ⟨⟨_, rfl, Dispatch.timed_of_wait hOpening hClosing⟩, ?_⟩
      unfold Dispatch.Course
      rw [hMode]
      exact Dispatch.posts_of_wait hRequest rfl hWarns hOpening hClosing
  | @pause _ _ opening ticket mode store x outcome hMode hLocal hLatency hChance hAnswer hOpening =>
      obtain ⟨finished, after, hFinish, hClosing⟩ := Dispatcher.finish_paused outside trace (pauseSeconds x) hAnswer
      rw [hFinish]
      refine ⟨⟨_, rfl, Dispatch.timed_of_wait hOpening hClosing⟩, ?_⟩
      rw [Dispatch.course_local hMode hLocal, if_pos hLatency]
      exact Dispatch.pauses_of_wait hChance hOpening hClosing

/-- In every other mode a store answers, whatever it is asked. -/
theorem seeded_engine (client : Client) {stamp : Int} (hStamp : Text.isWritable stamp = true) {mode : Mode}
    (hLocal : mode ≠ .sql) :
    ∃ store, (Registry.seeded client stamp).engine mode = .stored store ∧
      ∀ query, ∃ outcome, store.answer query = .ok outcome := by
  have hAnswer {store : Store} {query : String} {outcome : Outcome} (h : store.forecast query = .ok outcome) :
      store.answer query = .ok outcome := by
    unfold Store.forecast at h
    cases hStore : store.answer query with
    | error fault =>
        rw [hStore] at h
        cases h
    | ok other =>
        rw [hStore] at h
        exact congrArg Except.ok (Except.ok.inj h)
  cases mode with
  | sql => exact absurd rfl hLocal
  | document =>
      refine ⟨_, rfl, fun query => ?_⟩
      obtain ⟨outcome, hForecast, _⟩ := DocumentStore.forecast_spec DocumentStore.seed_holdsRecords query
      exact ⟨outcome, hAnswer hForecast⟩
  | cache =>
      refine ⟨_, rfl, fun query => ?_⟩
      obtain ⟨outcome, hForecast, _⟩ := CacheStore.forecast_spec ((CacheStore.seed_holdsTexts hStamp).findsText query)
      exact ⟨outcome, hAnswer hForecast⟩

/-- A dispatch that was begun: it waits for what it is to wait for, or it has come through already. -/
def Sound (outside : Outside) (client : Client) (latency : Bool) (dispatch : Dispatch) : Prop :=
  dispatch.Ready outside client latency ∨ dispatch.Ended outside client latency

theorem start_sound {dispatcher : Dispatcher} {stamp : Int} (hRegistry : dispatcher.registry = .seeded client stamp)
    (hStamp : Text.isWritable stamp = true)
    (hAddress : ∃ address, Address.normalize (client.url client.queryPath) = .ok address)
    (hChance : ∀ n, ∃ x, outside.chance n = .real x) (query tag : String) (trace : Trace) :
    let ((after, state), later) := (dispatcher.start query tag).perform outside trace
    after = { dispatcher with issued := dispatcher.issued + 1 } ∧
      Sound outside client dispatcher.latency ⟨query, tag, [⟨trace, later⟩], state⟩ := by
  cases hMode : Mode.parse tag with
  | error refusal =>
      obtain ⟨finished, after, hStart, hOpening⟩ := dispatcher.start_unknown query outside trace hMode
      rw [hStart]
      refine ⟨rfl, .inr ⟨⟨_, rfl, Dispatch.timed_of_once hOpening⟩, ?_⟩⟩
      unfold Dispatch.Course
      rw [hMode]
      exact Dispatch.idle_of_once hOpening
  | ok mode =>
      by_cases hRemote : mode = .sql
      · subst hRemote
        obtain ⟨address, hAddress⟩ := hAddress
        obtain ⟨request, hRequest⟩ := Client.exists_queryRequest hAddress query
        have hEngine : dispatcher.registry.engine .sql = .remote client := by rw [hRegistry]; rfl
        obtain ⟨after, hStart, hOpening⟩ := dispatcher.start_remote query outside trace hMode hEngine hRequest
        rw [hStart]
        exact ⟨rfl, .inl (.reply hMode hRequest hOpening)⟩
      · obtain ⟨store, hEngine, hAnswers⟩ := seeded_engine client hStamp hRemote
        rw [← hRegistry] at hEngine
        obtain ⟨outcome, hAnswer⟩ := hAnswers query
        by_cases hLatency : dispatcher.latency = true
        · obtain ⟨x, hChance⟩ := hChance trace.draws
          obtain ⟨after, hStart, hOpening⟩ :=
            dispatcher.start_paused query outside trace hMode hEngine hLatency hChance
          rw [hStart]
          exact ⟨rfl, .inl (.pause hMode hRemote hLatency hChance hAnswer hOpening)⟩
        · obtain ⟨finished, after, hStart, hOpening⟩ :=
            dispatcher.start_settled query outside trace hMode hEngine (Bool.eq_false_iff.mpr hLatency) hAnswer
          rw [hStart]
          refine ⟨rfl, .inr ⟨⟨_, rfl, Dispatch.timed_of_once hOpening⟩, ?_⟩⟩
          rw [Dispatch.course_local hMode hRemote, if_neg hLatency]
          exact Dispatch.idle_of_once hOpening

/-! ### Runs -/

/-- What every step keeps: the engines and the latency, and that each dispatch is sound. -/
structure Kept (outside : Outside) (client : Client) (stamp : Int) (latency : Bool) (desk : Desk) : Prop where
  registry : desk.dispatcher.registry = .seeded client stamp
  delay : desk.dispatcher.latency = latency
  sound : ∀ dispatch ∈ desk.dispatches, Sound outside client latency dispatch

section Runs

variable {stamp : Int} (hStamp : Text.isWritable stamp = true)
  (hAddress : ∃ address, Address.normalize (client.url client.queryPath) = .ok address)
  (hOutside : outside.Answers)
include hStamp hAddress hOutside

theorem step_kept {desk : Desk} (h : desk.Kept outside client stamp latency) (stroke : Stroke) :
    (desk.step outside stroke).Kept outside client stamp latency := by
  obtain ⟨hRegistry, hLatency, hSound⟩ := h
  subst hLatency
  cases stroke with
  | start query tag =>
      obtain ⟨hAfter, hNew⟩ :=
        start_sound hRegistry hStamp hAddress hOutside.chance query tag desk.trace
      simp only [step]
      rw [hAfter]
      refine ⟨hRegistry, rfl, ?_⟩
      intro dispatch hMem
      rcases List.mem_append.mp hMem with hMem | hMem
      · exact hSound dispatch hMem
      · rw [List.mem_singleton.mp hMem]
        exact hNew
  | finish place =>
      unfold step
      dsimp only
      split
      next query tag stretches flight hDispatch =>
          refine ⟨hRegistry, rfl, ?_⟩
          intro dispatch hMem
          rcases List.mem_or_eq_of_mem_set hMem with hMem | rfl
          · exact hSound dispatch hMem
          · rcases hSound _ (List.mem_of_getElem? hDispatch) with hReady | hEnded
            · exact .inr (ended_of_ready hOutside.replies hReady desk.trace)
            · obtain ⟨done, hThrough, -⟩ := hEnded.through
              cases hThrough
      next => exact ⟨hRegistry, rfl, hSound⟩

theorem run_kept {desk : Desk} (h : desk.Kept outside client stamp latency) (strokes : List Stroke) :
    (desk.run outside strokes).Kept outside client stamp latency := by
  induction strokes generalizing desk with
  | nil => exact h
  | cons stroke strokes ih => exact ih (step_kept hStamp hAddress hOutside h stroke)

/-- However dispatches overlap, each one that has come through has had its own course: the clock was read
for it twice, and its pause, its query and its warning were its own. All of them together account for
everything that was done to the outside. -/
theorem run_courses (latency : Bool) (strokes : List Stroke) :
    let desk := (fresh ⟨.seeded client stamp, latency, 0⟩).run outside strokes
    desk.dispatches.map Dispatch.origin = strokes.filter Stroke.isStart ∧
      (∀ dispatch ∈ desk.dispatches, ∀ result, dispatch.state = .through result →
        dispatch.Ended outside client latency) ∧
      desk.Accounted := by
  intro desk
  have hFresh : (fresh ⟨.seeded client stamp, latency, 0⟩).Kept outside client stamp latency :=
    ⟨rfl, rfl, fun _ hMem => absurd hMem List.not_mem_nil⟩
  refine ⟨run_origins _ strokes, ?_, run_accounted _ strokes⟩
  intro dispatch hMem result hThrough
  rcases (run_kept hStamp hAddress hOutside hFresh strokes).sound dispatch hMem with hReady | hEnded
  · cases hReady <;> cases hThrough
  · exact hEnded

end Runs

/-- A query in SQL mode and one to the documents whose waits end the other way round, and between them a
dispatch under a tag that names no mode. -/
theorem run_courses_overlapping :
    let client : Client := ⟨"http://sql.test", "/health", "/query"⟩
    let outside : Outside :=
      ⟨fun trace => .ofInt (10 * trace.readings.length), fun _ => .real .zero, fun _ => .failure "down",
        fun _ _ => .failure "down"⟩
    let desk := (fresh ⟨.seeded client 5, true, 0⟩).run outside
      [.start "select 1" "sql", .start "user:1" " NoSQL ", .start "x" "graph", .finish 1, .finish 0]
    desk.dispatches.map Dispatch.readings =
        [[(.ofInt 0, 0), (.ofInt 50, 5)], [(.ofInt 10, 1), (.ofInt 40, 4)], [(.ofInt 20, 2), (.ofInt 30, 3)]] ∧
      (∀ dispatch ∈ desk.dispatches, dispatch.Ended outside client true) ∧ desk.Accounted := by
  intro client outside desk
  have hAddress : Address.normalize (Client.url ⟨"http://sql.test", "/health", "/query"⟩ "/query") =
      .ok "http://sql.test/query" := rfl
  have hStamp : Text.isWritable 5 = true := Json.isWritable_of_lt (by decide)
  have hOutside : outside.Answers := ⟨fun _ => ⟨.zero, rfl⟩, by rintro n request cause message ⟨⟩⟩
  obtain ⟨_, hEnded, hAccounted⟩ := run_courses hStamp ⟨_, hAddress⟩ hOutside true
    [.start "select 1" "sql", .start "user:1" " NoSQL ", .start "x" "graph", .finish 1, .finish 0]
  have hReadings : desk.dispatches.map Dispatch.readings =
      [[(.ofInt 0, 0), (.ofInt 50, 5)], [(.ofInt 10, 1), (.ofInt 40, 4)],
        [(.ofInt 20, 2), (.ofInt 30, 3)]] := by
    decide +kernel
  have hThrough : desk.dispatches.all Dispatch.isThrough = true := by decide +kernel
  refine ⟨hReadings, ?_, hAccounted⟩
  intro dispatch hMem
  have hState := List.all_eq_true.mp hThrough dispatch hMem
  cases hResult : dispatch.state with
  | through result => exact hEnded dispatch hMem result hResult
  | waiting flight =>
      rw [Dispatch.isThrough, hResult] at hState
      cases hState

end Desk
end QueryPlayground
