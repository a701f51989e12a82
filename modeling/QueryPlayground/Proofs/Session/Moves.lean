import QueryPlayground.Proofs.Session.Forecast

/-! Overlapping calls. A sitting is a playground with the calls that have been made on it, and a host
moves it on one step at a time: calls that wait may be finished in any order, and modes and health may
change meanwhile. What each step does is stated once, by the forecast of the call that it touches. -/
namespace QueryPlayground

open Service

/-- A step of a host. A call goes by its place in the order of starts, the first one at zero. -/
inductive Move where
  | switch (tag : String)
  | connect
  | start (query : String)
  | finish (place : Nat)
  | execute (query : String)
  deriving DecidableEq, Repr

/-- A playground and the calls on it, in the order in which they were started. -/
structure Sitting where
  playground : Playground
  calls : List Pending

namespace Sitting

/-- A playground on which no call has been made. -/
def fresh (client : Client) (latency : Bool) (mode : Mode) (stamp : Int) : Sitting :=
  ⟨.fresh client latency mode stamp, []⟩

/-- One step. A switch to an unknown mode is refused and changes nothing, and so does the end of a call
that is not there. -/
def step (sitting : Sitting) : Move → Act Sitting
  | .switch tag =>
    match sitting.playground.switch tag with
    | .ok playground => return { sitting with playground }
    | .error _ => return sitting
  | .connect => do
    let (playground, _) ← sitting.playground.connect
    return { sitting with playground }
  | .start query => do
    let (playground, call) ← sitting.playground.start query
    return ⟨playground, sitting.calls ++ [call]⟩
  | .finish place =>
    match sitting.calls[place]? with
    | none => return sitting
    | some call => do
      let (playground, result) ← sitting.playground.finish call
      return ⟨playground, sitting.calls.set place (.through result)⟩
  | .execute query => do
    let (playground, result) ← sitting.playground.execute query
    return ⟨playground, sitting.calls ++ [.through result]⟩

/-- A run: one step after the other. -/
def run (sitting : Sitting) : List Move → Act Sitting
  | [] => return sitting
  | move :: moves => do (← sitting.step move).run moves

end Sitting

/-- A call that has ended, with a model or not. -/
def Pending.isThrough : Pending → Bool
  | .waiting _ => false
  | .through _ => true

/-- The model that a call has ended in. -/
def Pending.model? : Pending → Option Page.Model
  | .through (.ok model) => some model
  | _ => none

/-- The number that a call goes by; a call that has escaped shows none. -/
def Pending.number? : Pending → Option Int
  | .waiting flight => some flight.ticket.sequence
  | .through (.ok model) => some model.sequence
  | .through (.error _) => none

/-- Shows the model that a call has ended in, if there is one. -/
def Page.Surface.receive (surface : Page.Surface) : Option Page.Model → Page.Surface
  | none => surface
  | some model => surface.apply model

/-- A call holds to a forecast: it waits for what was forecast, or has ended with the page of it. -/
inductive Pending.Fulfils (forecast : Except Escape Outcome) (sequence : Nat) : Pending → Prop where
  | waiting {flight : Flight} (hForecast : flight.forecast = forecast)
      (hSequence : flight.ticket.sequence = sequence) : Fulfils forecast sequence (.waiting flight)
  | through {result : Except Escape Page.Model} (elapsed : Binary64)
      (hPage : result = forecast.bind fun outcome =>
        (Page.render outcome elapsed sequence).mapError .unrendered) :
      Fulfils forecast sequence (.through result)

/-- The reply to a request for the health, and the counts behind it. -/
def Outside.nextHealth (outside : Outside) (counts : Counts) : Except Abort Request → Reply × Counts
  | .error fault => (.abort fault.cause fault.message, counts)
  | .ok _ =>
    (outside.health counts.healthReplies, { counts with healthReplies := counts.healthReplies + 1 })

namespace Playground

/-- What starting a query does to a playground: the placeholder is shown, and then the model, if the
call has ended in one without a wait. -/
structure Starts (before : Playground) (outside : Outside) (counts : Counts) (query : String)
    (after : Playground) (call : Pending) (countsAfter : Counts) : Prop where
  selection : after.selection = before.selection
  dispatcher : after.dispatcher = { before.dispatcher with issued := before.dispatcher.issued + 1 }
  surface : after.surface = (before.surface.showLoading Page.loading).receive call.model?
  call : call.Fulfils (before.dispatcher.forecast outside counts (Text.trim query) before.selection.mode)
    (before.dispatcher.issued + 1)
  counts : countsAfter = before.dispatcher.countsAfter counts (Text.trim query) before.selection.mode

/-- What the end of a wait does to a playground: the model is shown, if there is one. -/
structure Finishes (before : Playground) (flight : Flight) (after : Playground)
    (result : Except Escape Page.Model) : Prop where
  selection : after.selection = before.selection
  dispatcher : after.dispatcher = before.dispatcher
  surface : after.surface = before.surface.receive (Pending.through result).model?
  call : (Pending.through result).Fulfils flight.forecast flight.ticket.sequence

/-- What a playground has selected once it has asked for the health, and the counts behind it. -/
def heard (playground : Playground) (outside : Outside) (counts : Counts) : Selection × Counts :=
  let client := playground.dispatcher.registry.client
  let (reply, counts) := outside.nextHealth counts client.healthRequest
  match client.readHealth reply with
  | .error _ => (playground.selection, counts)
  | .ok (health, _) => ({ playground.selection with health }, counts)

/-- A result is shown if it has a page; the rest of the playground stays. -/
theorem publish_spec (playground : Playground) (result : Except Escape Completion) :
    (playground.publish result).1.selection = playground.selection ∧
      (playground.publish result).1.dispatcher = playground.dispatcher ∧
      (playground.publish result).1.surface =
        playground.surface.receive (Pending.through (playground.publish result).2).model? ∧
      (playground.publish result).2 = result.bind Completion.render := by
  unfold publish
  cases result.bind Completion.render with
  | ok model => exact ⟨rfl, rfl, rfl, rfl⟩
  | error escape => exact ⟨rfl, rfl, rfl, rfl⟩

/-- The page of a dispatch that ended as it was forecast is the page of the forecast. -/
theorem fulfils_of_says {ticket : Ticket} {forecast : Except Escape Outcome}
    {result : Except Escape Completion} (h : Says ticket forecast result) :
    (Pending.through (result.bind Completion.render)).Fulfils forecast ticket.sequence := by
  obtain ⟨finished, rfl⟩ := h
  refine .through (elapsedMs ticket.started finished) ?_
  cases forecast with
  | ok outcome => rfl
  | error escape => rfl

variable (playground : Playground) (outside : Outside) (trace : Trace)

theorem start_spec (query : String) :
    playground.Starts outside trace.counts query ((playground.start query).perform outside trace).1.1
      ((playground.start query).perform outside trace).1.2
      ((playground.start query).perform outside trace).2.counts := by
  obtain ⟨hDispatcher, hCall, hCounts⟩ := Dispatcher.start_fulfils outside trace playground.dispatcher
    (Text.trim query) playground.selection.mode
  simp only [start, Act.perform_bind]
  generalize (playground.dispatcher.start (Text.trim query) playground.selection.mode.tag).perform outside
    trace = begun at hDispatcher hCall hCounts
  obtain ⟨⟨dispatcher, begun⟩, trace'⟩ := begun
  cases hCall with
  | waiting hForecast hSequence =>
      rw [Act.perform_pure]
      exact ⟨rfl, hDispatcher, rfl, .waiting hForecast hSequence, hCounts⟩
  | @through ticket result hSequence hSays =>
      obtain ⟨hSelection, hKept, hSurface, hResult⟩ := publish_spec
        ⟨playground.selection, dispatcher, playground.surface.showLoading Page.loading⟩ result
      rw [Act.perform_pure]
      refine ⟨hSelection, hKept.trans hDispatcher, hSurface, ?_, hCounts⟩
      have hPage := fulfils_of_says hSays
      rw [← hResult, hSequence] at hPage
      exact hPage

theorem finish_spec (flight : Flight) :
    playground.Finishes flight ((playground.finish (.waiting flight)).perform outside trace).1.1
        ((playground.finish (.waiting flight)).perform outside trace).1.2 ∧
      ((playground.finish (.waiting flight)).perform outside trace).2.counts = trace.counts := by
  obtain ⟨hSays, hCounts⟩ := Dispatcher.finish_says outside trace flight
  obtain ⟨hSelection, hDispatcher, hSurface, hResult⟩ :=
    publish_spec playground ((Dispatcher.finish flight).perform outside trace).1
  have hPage := fulfils_of_says hSays
  rw [← hResult] at hPage
  simp only [finish, Act.perform_bind, Act.perform_pure]
  exact ⟨⟨hSelection, hDispatcher, hSurface, hPage⟩, hCounts⟩

/-- A query that is run from its start to its end is a dispatch of its statement, whose result is then shown. -/
theorem execute_perform (query : String) :
    (playground.execute query).perform outside trace =
      let ran := (playground.dispatcher.run (Text.trim query) playground.selection.mode.tag).perform outside trace
      (({ playground with
          surface := playground.surface.showLoading Page.loading, dispatcher := ran.1.1 } : Playground).publish
            ran.1.2, ran.2) := by
  simp only [execute, start, Dispatcher.run, Act.perform_bind]
  generalize (playground.dispatcher.start (Text.trim query) playground.selection.mode.tag).perform outside trace =
    started
  obtain ⟨⟨dispatcher, begun⟩, trace'⟩ := started
  cases begun with
  | waiting flight => simp only [finish, Act.perform_bind, Act.perform_pure]
  | through result => simp only [finish, Act.perform_pure]

theorem exchange_health (client : Client) :
    ((Act.exchange client.healthRequest).perform outside trace).1 =
        (outside.nextHealth trace.counts client.healthRequest).1 ∧
      ((Act.exchange client.healthRequest).perform outside trace).2.counts =
        (outside.nextHealth trace.counts client.healthRequest).2 := by
  cases hRequest : client.healthRequest with
  | error fault =>
      rw [Act.exchange, Act.perform_pure]
      exact ⟨rfl, rfl⟩
  | ok request => exact Act.perform_send_get (Client.method_of_request hRequest) outside trace

/-- Asking for the health touches the selection only. -/
theorem connect_spec :
    (playground.connect.perform outside trace).1.1 =
        { playground with selection := (playground.heard outside trace.counts).1 } ∧
      (playground.connect.perform outside trace).2.counts = (playground.heard outside trace.counts).2 := by
  obtain ⟨hReply, hCounts⟩ := exchange_health outside trace playground.dispatcher.registry.client
  unfold heard
  simp only [connect, Act.perform_bind, hReply, ← hCounts]
  cases playground.dispatcher.registry.client.readHealth
    (outside.nextHealth trace.counts playground.dispatcher.registry.client.healthRequest).1 with
  | error abort =>
      rw [Act.perform_pure]
      exact ⟨rfl, rfl⟩
  | ok read =>
      simp only [Act.perform_bind, Act.perform_pure, Act.counts_log, Act.counts_logAll, and_self]

end Playground

/-! ### Places in lists of calls -/

theorem getElem?_concat_cases {α : Type} {items : List α} {item other : α} {place : Nat}
    (h : (items ++ [item])[place]? = some other) :
    items[place]? = some other ∨ place = items.length ∧ other = item := by
  rcases Nat.lt_or_ge place items.length with hLt | hGe
  · rw [List.getElem?_append_left hLt] at h
    exact Or.inl h
  · rw [List.getElem?_append_right hGe, List.getElem?_singleton] at h
    split at h
    · cases h
      exact Or.inr ⟨by omega, rfl⟩
    · cases h

theorem getElem?_set_cases {α : Type} {items : List α} {item other : α} {place place' : Nat}
    (h : (items.set place item)[place']? = some other) :
    place' = place ∧ other = item ∨ place' ≠ place ∧ items[place']? = some other := by
  by_cases hSame : place' = place
  · subst hSame
    have hLength : place' < (items.set place' item).length := (List.getElem?_eq_some_iff.mp h).1
    rw [List.length_set] at hLength
    rw [List.getElem?_set_self hLength] at h
    cases h
    exact Or.inl ⟨rfl, rfl⟩
  · rw [List.getElem?_set_ne (Ne.symm hSame)] at h
    exact Or.inr ⟨hSame, h⟩

/-! ### Steps and runs -/

namespace Sitting

variable (sitting : Sitting) (outside : Outside) (trace : Trace)

/-- A switch selects a mode or nothing new. -/
theorem step_switch (tag : String) :
    (sitting.step (.switch tag)).perform outside trace =
      (⟨{ sitting.playground with
        selection := (sitting.playground.selection.switch tag).toOption.getD sitting.playground.selection },
        sitting.calls⟩, trace) := by
  unfold step Playground.switch
  dsimp only
  cases sitting.playground.selection.switch tag with
  | ok selection => exact Act.perform_pure _ outside trace
  | error refusal => exact Act.perform_pure _ outside trace

theorem step_connect :
    ((sitting.step .connect).perform outside trace).1 =
        ⟨{ sitting.playground with selection := (sitting.playground.heard outside trace.counts).1 },
          sitting.calls⟩ ∧
      ((sitting.step .connect).perform outside trace).2.counts =
        (sitting.playground.heard outside trace.counts).2 := by
  obtain ⟨hPlayground, hCounts⟩ := sitting.playground.connect_spec outside trace
  simp only [step, Act.perform_bind, Act.perform_pure]
  exact ⟨by rw [hPlayground], hCounts⟩

/-- A start adds a call behind all others. -/
theorem step_start (query : String) :
    ∃ call, ((sitting.step (.start query)).perform outside trace).1.calls = sitting.calls ++ [call] ∧
      sitting.playground.Starts outside trace.counts query
        ((sitting.step (.start query)).perform outside trace).1.playground call
        ((sitting.step (.start query)).perform outside trace).2.counts := by
  simp only [step, Act.perform_bind, Act.perform_pure]
  exact ⟨_, rfl, sitting.playground.start_spec outside trace query⟩

/-- The end of a wait replaces the call that waited. -/
theorem step_finish {place : Nat} {flight : Flight} (hCall : sitting.calls[place]? = some (.waiting flight)) :
    ∃ result, ((sitting.step (.finish place)).perform outside trace).1.calls =
        sitting.calls.set place (.through result) ∧
      sitting.playground.Finishes flight
        ((sitting.step (.finish place)).perform outside trace).1.playground result ∧
      ((sitting.step (.finish place)).perform outside trace).2.counts = trace.counts := by
  obtain ⟨hFinishes, hCounts⟩ := sitting.playground.finish_spec outside trace flight
  simp only [step, hCall, Act.perform_bind, Act.perform_pure]
  exact ⟨_, rfl, hFinishes, hCounts⟩

/-- Without a call that waits there is nothing to end. -/
theorem step_finish_idle {place : Nat} (hCall : ∀ flight, sitting.calls[place]? ≠ some (.waiting flight)) :
    (sitting.step (.finish place)).perform outside trace = (sitting, trace) := by
  simp only [step]
  cases hPlace : sitting.calls[place]? with
  | none => exact Act.perform_pure sitting outside trace
  | some call =>
      cases call with
      | waiting flight => exact absurd hPlace (hCall flight)
      | through result =>
          obtain ⟨hLength, hValue⟩ := List.getElem?_eq_some_iff.mp hPlace
          have hSame : sitting.calls.set place (.through result) = sitting.calls := by
            rw [← hValue, List.set_getElem_self]
          simp only [Playground.finish, Act.perform_bind, Act.perform_pure, hSame]

/-- To execute a query is to start it and to finish it at once. -/
theorem step_execute (query : String) :
    (sitting.step (.execute query)).perform outside trace =
      (sitting.run [.start query, .finish sitting.calls.length]).perform outside trace := by
  simp only [run, step, Playground.execute, Act.perform_bind, Act.perform_pure]
  rw [List.getElem?_concat_length]
  simp only [Act.perform_bind, Act.perform_pure, List.set_append_right _ _ (Nat.le_refl _), Nat.sub_self,
    List.set_cons_zero]

/-- What selections, starts and ends of waits keep is kept by every run. -/
theorem run_induction {P : Sitting → Prop}
    (hSelect : ∀ sitting selection, P sitting →
      P ⟨{ sitting.playground with selection := selection }, sitting.calls⟩)
    (hStart : ∀ sitting counts query after call countsAfter, P sitting →
      sitting.playground.Starts outside counts query after call countsAfter →
      P ⟨after, sitting.calls ++ [call]⟩)
    (hFinish : ∀ sitting place flight after result, P sitting →
      sitting.calls[place]? = some (.waiting flight) → sitting.playground.Finishes flight after result →
      P ⟨after, sitting.calls.set place (.through result)⟩)
    (moves : List Move) (h : P sitting) : P ((sitting.run moves).perform outside trace).1 := by
  have hStarted (sitting : Sitting) (trace : Trace) (query : String) (h : P sitting) :
      P ((sitting.step (.start query)).perform outside trace).1 := by
    obtain ⟨call, hCalls, hStarts⟩ := sitting.step_start outside trace query
    have hNext := hStart _ _ _ _ _ _ h hStarts
    rwa [← hCalls] at hNext
  have hFinished (sitting : Sitting) (trace : Trace) (place : Nat) (h : P sitting) :
      P ((sitting.step (.finish place)).perform outside trace).1 := by
    by_cases hCall : ∃ flight, sitting.calls[place]? = some (.waiting flight)
    · obtain ⟨flight, hCall⟩ := hCall
      obtain ⟨result, hCalls, hFinishes, _⟩ := sitting.step_finish outside trace hCall
      have hNext := hFinish _ _ _ _ _ h hCall hFinishes
      rwa [← hCalls] at hNext
    · rw [step_finish_idle _ _ _ fun flight hFlight => hCall ⟨flight, hFlight⟩]
      exact h
  induction moves generalizing sitting trace with
  | nil =>
      rw [run, Act.perform_pure]
      exact h
  | cons move moves ih =>
      rw [run, Act.perform_bind]
      refine ih _ _ ?_
      cases move with
      | switch tag =>
          rw [step_switch]
          exact hSelect _ _ h
      | connect =>
          rw [(sitting.step_connect outside trace).1]
          exact hSelect _ _ h
      | start query => exact hStarted _ _ _ h
      | finish place => exact hFinished _ _ _ h
      | execute query =>
          rw [step_execute]
          simp only [run, Act.perform_bind, Act.perform_pure]
          exact hFinished _ _ _ (hStarted _ _ _ h)

end Sitting
end QueryPlayground
