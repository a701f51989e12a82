import QueryPlayground.Proofs.Session.Answers

/-! What a dispatch does to the outside. Each of its two parts, up to the wait and behind it, is known by the
trace that it leaves: which readings, draws and replies it has used up, and the effects in order. What an
activity does is always added to the trace and never taken back, and a dispatch prints nothing. -/
namespace QueryPlayground

open Service

/-! ### Traces that grow -/

/-- A trace that has come out of another one: nothing is taken back, and nothing was printed. -/
structure Trace.Grows (before after : Trace) : Prop where
  readings : before.readings <+: after.readings
  draws : before.draws ≤ after.draws
  queryReplies : before.queryReplies ≤ after.queryReplies
  effects : ∃ effects, after.effects = before.effects ++ effects ∧
    ∀ channel text, .print channel text ∉ effects

theorem Trace.Grows.refl (trace : Trace) : trace.Grows trace :=
  ⟨List.prefix_refl _, Nat.le_refl _, Nat.le_refl _, [], by simp, by simp⟩

theorem Trace.Grows.trans {first second third : Trace} (h : first.Grows second) (h' : second.Grows third) :
    first.Grows third := by
  obtain ⟨effects, hEffects, hQuiet⟩ := h.effects
  obtain ⟨effects', hEffects', hQuiet'⟩ := h'.effects
  refine ⟨h.readings.trans h'.readings, Nat.le_trans h.draws h'.draws,
    Nat.le_trans h.queryReplies h'.queryReplies, effects ++ effects', ?_, ?_⟩
  · rw [hEffects', hEffects, List.append_assoc]
  · intro channel text hMem
    rcases List.mem_append.mp hMem with hMem | hMem
    · exact hQuiet channel text hMem
    · exact hQuiet' channel text hMem

namespace Act

variable {α β : Type} (outside : Outside) (trace : Trace)

theorem perform_effect (e : Effect) :
    (effect e).perform outside trace = ((), { trace with effects := trace.effects ++ [e] }) := by
  unfold perform
  rfl

@[simp]
theorem perform_log (level : Level) (message : String) :
    (log level message).perform outside trace =
      ((), { trace with effects := trace.effects ++ [.log ⟨level, message⟩] }) :=
  perform_effect outside trace _

@[simp]
theorem perform_logAll (lines : List LogLine) :
    (logAll lines).perform outside trace =
      ((), { trace with effects := trace.effects ++ lines.map .log }) := by
  induction lines generalizing trace with
  | nil =>
      have hNothing : logAll [] = pure () := rfl
      rw [hNothing, perform_pure, List.map_nil, List.append_nil]
  | cons line lines ih =>
      have hRest := ih { trace with effects := trace.effects ++ [.log line] }
      rw [List.append_assoc] at hRest
      unfold perform at hRest ⊢
      exact hRest

/-- A reading of the clock is whatever the outside says. -/
@[simp]
theorem perform_now :
    now.perform outside trace =
      (outside.clock trace, { trace with readings := trace.readings ++ [outside.clock trace] }) := by
  unfold perform
  rfl

theorem perform_draw_eq :
    draw.perform outside trace = (outside.chance trace.draws, { trace with draws := trace.draws + 1 }) := by
  unfold perform
  rfl

@[simp]
theorem perform_sleep (seconds : Binary64) :
    (sleep seconds).perform outside trace =
      ((), { trace with effects := trace.effects ++ [.sleep seconds] }) :=
  perform_effect outside trace _

@[simp]
theorem perform_wake (seconds : Binary64) :
    (wake seconds).perform outside trace = ((), { trace with pauses := trace.pauses ++ [seconds] }) := by
  unfold perform
  rfl

theorem perform_send_eq {request : Request} (hMethod : request.method = .post) :
    (send request).perform outside trace =
      (outside.query trace.queryReplies request,
        { trace with
          effects := trace.effects ++ [.request request]
          queryReplies := trace.queryReplies + 1
          standIns := (outside.query trace.queryReplies request).standIns }) := by
  obtain ⟨method, address, body⟩ := request
  cases hMethod
  unfold perform
  rfl

/-- An activity that only adds to the trace and prints nothing. -/
def Grows (act : Act α) : Prop :=
  ∀ (outside : Outside) (trace : Trace), trace.Grows (act.perform outside trace).2

theorem grows_pure (a : α) : (pure a : Act α).Grows := by
  intro outside trace
  rw [perform_pure]
  exact .refl trace

theorem Grows.bind {act : Act α} {next : α → Act β} (hAct : act.Grows) (hNext : ∀ a, (next a).Grows) :
    (act >>= next).Grows := by
  intro outside trace
  rw [perform_bind]
  exact (hAct outside trace).trans (hNext _ outside _)

theorem grows_log (level : Level) (message : String) : (log level message).Grows := by
  intro outside trace
  rw [perform_log]
  exact ⟨List.prefix_refl _, Nat.le_refl _, Nat.le_refl _, _, rfl, by simp⟩

theorem grows_logAll (lines : List LogLine) : (logAll lines).Grows := by
  intro outside trace
  rw [perform_logAll]
  exact ⟨List.prefix_refl _, Nat.le_refl _, Nat.le_refl _, _, rfl, by simp⟩

theorem grows_now : now.Grows := by
  intro outside trace
  rw [perform_now]
  exact ⟨List.prefix_append _ _, Nat.le_refl _, Nat.le_refl _, [], by simp, by simp⟩

theorem grows_draw : draw.Grows := by
  intro outside trace
  rw [perform_draw_eq]
  exact ⟨List.prefix_refl _, Nat.le_succ _, Nat.le_refl _, [], by simp, by simp⟩

theorem grows_sleep (seconds : Binary64) : (sleep seconds).Grows := by
  intro outside trace
  rw [perform_sleep]
  exact ⟨List.prefix_refl _, Nat.le_refl _, Nat.le_refl _, _, rfl, by simp⟩

theorem grows_wake (seconds : Binary64) : (wake seconds).Grows := by
  intro outside trace
  rw [perform_wake]
  exact ⟨List.prefix_refl _, Nat.le_refl _, Nat.le_refl _, [], by simp, by simp⟩

theorem grows_send (request : Request) : (send request).Grows := by
  intro outside trace
  obtain ⟨method, address, body⟩ := request
  have hEffects (printed : List Char) (channel : Channel) :
      Effect.print channel printed ∉ [Effect.request ⟨method, address, body⟩] := by
    simp
  unfold perform
  cases method with
  | get => exact ⟨List.prefix_refl _, Nat.le_refl _, Nat.le_refl _, _, rfl, fun channel text => hEffects text channel⟩
  | post => exact ⟨List.prefix_refl _, Nat.le_refl _, Nat.le_succ _, _, rfl, fun channel text => hEffects text channel⟩

end Act

namespace Dispatcher

theorem grows_conclude (ticket : Ticket) (outcome : Outcome) : (conclude ticket outcome).Grows :=
  Act.grows_now.bind fun _ => (Act.grows_log _ _).bind fun _ => Act.grows_pure _

theorem grows_settle (ticket : Ticket) (store : Store) : (settle ticket store).Grows := by
  unfold settle
  split
  next => exact (grows_conclude _ _).bind fun _ => Act.grows_pure _
  next => exact Act.grows_pure _

theorem grows_launch (latency : Bool) (ticket : Ticket) (engine : Engine) :
    (launch latency ticket engine).Grows := by
  unfold launch
  cases engine with
  | remote client =>
      dsimp only
      split
      next => exact Act.grows_pure _
      next => exact (Act.grows_send _).bind fun _ => Act.grows_pure _
  | stored store =>
      dsimp only
      split
      next =>
          refine Act.grows_draw.bind fun chance => ?_
          split
          next => exact Act.grows_pure _
          next => exact (Act.grows_sleep _).bind fun _ => Act.grows_pure _
      next => exact (grows_settle _ _).bind fun _ => Act.grows_pure _

theorem grows_start (dispatcher : Dispatcher) (query tag : String) : (dispatcher.start query tag).Grows := by
  unfold start
  refine Act.grows_now.bind fun started => ?_
  split
  next => exact (grows_conclude _ _).bind fun _ => Act.grows_pure _
  next => exact (Act.grows_log _ _).bind fun _ => (grows_launch _ _ _).bind fun _ => Act.grows_pure _

theorem grows_finish (flight : Flight) : (finish flight).Grows := by
  unfold finish
  split
  next => exact (Act.grows_wake _).bind fun _ => grows_settle _ _
  next =>
      split
      next => exact Act.grows_pure _
      next => exact (Act.grows_logAll _).bind fun _ => (grows_conclude _ _).bind fun _ => Act.grows_pure _

end Dispatcher

namespace Playground

theorem grows_start (playground : Playground) (query : String) : (playground.start query).Grows := by
  unfold start
  refine (Dispatcher.grows_start _ _ _).bind fun ⟨dispatcher, begun⟩ => ?_
  cases begun with
  | waiting flight => exact Act.grows_pure _
  | through result => exact Act.grows_pure _

theorem grows_finish (playground : Playground) (pending : Pending) : (playground.finish pending).Grows := by
  cases pending with
  | through result => exact Act.grows_pure _
  | waiting flight => exact (Dispatcher.grows_finish flight).bind fun _ => Act.grows_pure _

theorem grows_execute (playground : Playground) (query : String) : (playground.execute query).Grows :=
  (playground.grows_start query).bind fun ⟨started, pending⟩ => started.grows_finish pending

end Playground

/-! ### Stretches -/

/-- A part of a run, between two traces. -/
structure Stretch where
  before : Trace
  after : Trace

/-- Lines for debugging, which tell a user nothing. -/
def Effect.isDebug : Effect → Bool
  | .log line => line.level == .debug
  | _ => false

namespace Stretch

/-- The readings of the clock in a stretch, each with its number. -/
def readings (stretch : Stretch) : List (Binary64 × Nat) :=
  stretch.after.readings.zipIdx.drop stretch.before.readings.length

/-- The draws of chance in a stretch, by their numbers. -/
def draws (stretch : Stretch) : List Nat :=
  List.range' stretch.before.draws (stretch.after.draws - stretch.before.draws)

/-- The replies to queries in a stretch, by their numbers. -/
def replies (stretch : Stretch) : List Nat :=
  List.range' stretch.before.queryReplies (stretch.after.queryReplies - stretch.before.queryReplies)

/-- All that was done in a stretch, in order. -/
def effects (stretch : Stretch) : List Effect := stretch.after.effects.drop stretch.before.effects.length

/-- What was done in a stretch beside debugging. -/
def doings (stretch : Stretch) : List Effect := stretch.effects.filter fun effect => !effect.isDebug

theorem effects_eq {before after : Trace} {effects : List Effect}
    (h : after.effects = before.effects ++ effects) : (Stretch.mk before after).effects = effects := by
  rw [Stretch.effects, h, List.drop_left]

/-- What a stretch comes to: these readings of the clock, so many draws and replies, and these doings. -/
structure Does (stretch : Stretch) (readings : List Binary64) (draws replies : Nat) (doings : List Effect) :
    Prop where
  readings : stretch.readings = readings.zipIdx stretch.before.readings.length
  draws : stretch.draws = List.range' stretch.before.draws draws
  replies : stretch.replies = List.range' stretch.before.queryReplies replies
  doings : stretch.doings = doings

theorem zipIdx_readings {before after : Trace} {readings : List Binary64}
    (h : after.readings = before.readings ++ readings) :
    after.readings.zipIdx = before.readings.zipIdx ++ readings.zipIdx before.readings.length := by
  rw [h, List.zipIdx_append, Nat.zero_add]

theorem readings_eq {before after : Trace} {readings : List Binary64}
    (h : after.readings = before.readings ++ readings) :
    (Stretch.mk before after).readings = readings.zipIdx before.readings.length := by
  have hLength : before.readings.zipIdx.length = before.readings.length := List.length_zipIdx
  rw [Stretch.readings, zipIdx_readings h, ← hLength, List.drop_left]

theorem does_of_eq {before after : Trace} {readings : List Binary64} {draws replies : Nat} {doings : List Effect}
    (effects : List Effect) (hEffects : after.effects = before.effects ++ effects)
    (hReadings : after.readings = before.readings ++ readings) (hDraws : after.draws = before.draws + draws)
    (hReplies : after.queryReplies = before.queryReplies + replies)
    (hDoings : (effects.filter fun effect => !effect.isDebug) = doings) :
    (Stretch.mk before after).Does readings draws replies doings where
  readings := readings_eq hReadings
  draws := by rw [Stretch.draws, hDraws, Nat.add_sub_cancel_left]
  replies := by rw [Stretch.replies, hReplies, Nat.add_sub_cancel_left]
  doings := by rw [Stretch.doings, effects_eq hEffects, hDoings]

end Stretch

/-- The pause of a store in seconds, by a number between zero and one. -/
def pauseSeconds (x : Binary64) : Binary64 :=
  (x * Binary64.ofInt 200 + Binary64.ofInt 100) / Binary64.ofInt 1000

namespace Dispatcher

/-! ### The two parts of a dispatch -/

variable (dispatcher : Dispatcher) (query : String) (outside : Outside) (trace : Trace)

/-- The end of a dispatch reads the clock, and logs a line for debugging. -/
theorem conclude_eq (ticket : Ticket) (outcome : Outcome) :
    ∃ message, (conclude ticket outcome).perform outside trace =
      (⟨ticket, outcome, outside.clock trace⟩,
        { trace with
          readings := trace.readings ++ [outside.clock trace]
          effects := trace.effects ++ [.log ⟨.debug, message⟩] }) := by
  simp only [conclude, Act.perform_bind, Act.perform_pure, Act.perform_now, Act.perform_log]
  exact ⟨_, rfl⟩

theorem settle_eq (ticket : Ticket) {store : Store} {outcome : Outcome}
    (hAnswer : store.answer ticket.query = .ok outcome) :
    ∃ message, (settle ticket store).perform outside trace =
      (.ok ⟨ticket, outcome, outside.clock trace⟩,
        { trace with
          readings := trace.readings ++ [outside.clock trace]
          effects := trace.effects ++ [.log ⟨.debug, message⟩] }) := by
  obtain ⟨message, hConclude⟩ := conclude_eq outside trace ticket outcome
  refine ⟨message, ?_⟩
  simp only [settle, hAnswer, Act.perform_bind, Act.perform_pure, hConclude]

/-- The ticket of a dispatch that starts now. -/
def ticket (mode : Option Mode) : Ticket := ⟨query, mode, dispatcher.issued + 1, outside.clock trace⟩

/-- A dispatch whose tag names no mode is over at once. -/
theorem start_unknown {tag : String} {refusal : Refusal} (hMode : Mode.parse tag = .error refusal) :
    ∃ finished after, (dispatcher.start query tag).perform outside trace =
        (({ dispatcher with issued := dispatcher.issued + 1 },
            .through (.ok ⟨dispatcher.ticket query outside trace none, .failure refusal.message, finished⟩)),
          after) ∧
      (Stretch.mk trace after).Does [outside.clock trace, finished] 0 0 [] := by
  obtain ⟨message, hConclude⟩ := conclude_eq outside
    { trace with readings := trace.readings ++ [outside.clock trace] }
    (dispatcher.ticket query outside trace none) (.failure refusal.message)
  rw [ticket] at hConclude
  simp only [start, hMode, Act.perform_bind, Act.perform_pure, Act.perform_now]
  rw [hConclude]
  refine ⟨_, _, rfl, ?_⟩
  exact Stretch.does_of_eq [.log ⟨.debug, message⟩] rfl (List.append_assoc _ _ _) rfl rfl rfl

section KnownMode

variable {tag : String} {mode : Mode} (hMode : Mode.parse tag = .ok mode)
include hMode

/-- The start of a dispatch whose tag names a mode, by that of its engine. -/
theorem start_known :
    ∃ message, (dispatcher.start query tag).perform outside trace =
      let launched := (launch dispatcher.latency (dispatcher.ticket query outside trace (some mode))
        (dispatcher.registry.engine mode)).perform outside
          { trace with
            readings := trace.readings ++ [outside.clock trace]
            effects := trace.effects ++ [.log ⟨.debug, message⟩] }
      (({ dispatcher with issued := dispatcher.issued + 1 }, launched.1), launched.2) := by
  simp only [start, hMode, Act.perform_bind, Act.perform_pure, Act.perform_now, Act.perform_log]
  exact ⟨_, rfl⟩

/-- A dispatch to the service posts its query and waits for the reply. -/
theorem start_remote {client : Client} (hEngine : dispatcher.registry.engine mode = .remote client)
    {request : Request} (hRequest : client.queryRequest query = .ok request) :
    ∃ after, (dispatcher.start query tag).perform outside trace =
        (({ dispatcher with issued := dispatcher.issued + 1 },
            .waiting ⟨dispatcher.ticket query outside trace (some mode),
              .reply client (outside.query trace.queryReplies request)⟩), after) ∧
      (Stretch.mk trace after).Does [outside.clock trace] 0 1 [.request request] := by
  obtain ⟨message, hStart⟩ := start_known dispatcher query outside trace hMode
  have hSend := Act.perform_send_eq outside
    { trace with
      readings := trace.readings ++ [outside.clock trace]
      effects := trace.effects ++ [.log ⟨.debug, message⟩] }
    (Client.method_of_request hRequest)
  rw [hStart, hEngine]
  unfold launch
  simp only [ticket, hRequest, Act.perform_bind, Act.perform_pure, hSend,
    List.append_assoc, List.singleton_append]
  refine ⟨_, rfl, ?_⟩
  exact Stretch.does_of_eq [.log ⟨.debug, message⟩, .request request] rfl rfl rfl rfl rfl

/-- A dispatch to a store draws a number by chance and sleeps for it. -/
theorem start_paused {store : Store} (hEngine : dispatcher.registry.engine mode = .stored store)
    (hLatency : dispatcher.latency = true) {x : Binary64} (hChance : outside.chance trace.draws = .real x) :
    ∃ after, (dispatcher.start query tag).perform outside trace =
        (({ dispatcher with issued := dispatcher.issued + 1 },
            .waiting ⟨dispatcher.ticket query outside trace (some mode), .pause (pauseSeconds x) store⟩), after) ∧
      (Stretch.mk trace after).Does [outside.clock trace] 1 0 [.sleep (pauseSeconds x)] := by
  obtain ⟨message, hStart⟩ := start_known dispatcher query outside trace hMode
  have hDelay : (simulatedDelay (outside.chance trace.draws)).toDouble =
      .ok (x * Binary64.ofInt 200 + Binary64.ofInt 100) := by
    rw [hChance]
    rfl
  rw [hStart, hEngine]
  unfold launch
  simp only [hLatency, if_true, Act.perform_bind, Act.perform_pure, Act.perform_draw_eq,
    hDelay, Act.perform_sleep, List.append_assoc, List.singleton_append]
  refine ⟨_, rfl, ?_⟩
  exact Stretch.does_of_eq [.log ⟨.debug, message⟩, .sleep (pauseSeconds x)] rfl rfl rfl rfl rfl

/-- Without latency a store answers at once. -/
theorem start_settled {store : Store} (hEngine : dispatcher.registry.engine mode = .stored store)
    (hLatency : dispatcher.latency = false) {outcome : Outcome} (hAnswer : store.answer query = .ok outcome) :
    ∃ finished after, (dispatcher.start query tag).perform outside trace =
        (({ dispatcher with issued := dispatcher.issued + 1 },
            .through (.ok ⟨dispatcher.ticket query outside trace (some mode), outcome, finished⟩)), after) ∧
      (Stretch.mk trace after).Does [outside.clock trace, finished] 0 0 [] := by
  obtain ⟨first, hStart⟩ := start_known dispatcher query outside trace hMode
  obtain ⟨last, hSettle⟩ := settle_eq outside
    { trace with
      readings := trace.readings ++ [outside.clock trace]
      effects := trace.effects ++ [.log ⟨.debug, first⟩] }
    (dispatcher.ticket query outside trace (some mode)) hAnswer
  rw [hStart, hEngine]
  unfold launch
  simp only [hLatency, Bool.false_eq_true, if_false, Act.perform_bind, Act.perform_pure, hSettle,
    List.append_assoc, List.singleton_append]
  refine ⟨_, _, rfl, ?_⟩
  exact Stretch.does_of_eq [.log ⟨.debug, first⟩, .log ⟨.debug, last⟩] rfl rfl rfl rfl rfl

end KnownMode

/-- After its pause a dispatch only asks its store. -/
theorem finish_paused {ticket : Ticket} (seconds : Binary64) {store : Store} {outcome : Outcome}
    (hAnswer : store.answer ticket.query = .ok outcome) :
    ∃ finished after, (finish ⟨ticket, .pause seconds store⟩).perform outside trace =
        (.ok ⟨ticket, outcome, finished⟩, after) ∧
      (Stretch.mk trace after).Does [finished] 0 0 [] := by
  obtain ⟨message, hSettle⟩ :=
    settle_eq outside { trace with pauses := trace.pauses ++ [seconds] } ticket hAnswer
  simp only [finish, Act.perform_bind, Act.perform_wake, hSettle]
  exact ⟨_, _, rfl, Stretch.does_of_eq [.log ⟨.debug, message⟩] rfl rfl rfl rfl rfl⟩

/-- After the reply a dispatch logs what is to be said of it. -/
theorem finish_reply (ticket : Ticket) {client : Client} {reply : Reply} {outcome : Outcome}
    {lines : List LogLine} (hRead : client.readOutcome reply = .ok (outcome, lines)) :
    ∃ finished after, (finish ⟨ticket, .reply client reply⟩).perform outside trace =
        (.ok ⟨ticket, outcome, finished⟩, after) ∧
      (Stretch.mk trace after).Does [finished] 0 0 ((lines.map .log).filter fun effect => !effect.isDebug) := by
  obtain ⟨message, hConclude⟩ := conclude_eq outside
    { trace with effects := trace.effects ++ lines.map .log } ticket outcome
  simp only [finish, hRead, Act.perform_bind, Act.perform_pure, Act.perform_logAll, hConclude, List.append_assoc]
  refine ⟨_, _, rfl, Stretch.does_of_eq (lines.map .log ++ [.log ⟨.debug, message⟩]) rfl rfl rfl rfl ?_⟩
  rw [List.filter_append]
  exact List.append_nil _

end Dispatcher
end QueryPlayground
