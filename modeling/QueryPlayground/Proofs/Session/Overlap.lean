import QueryPlayground.Proofs.Session.Answers
import QueryPlayground.Proofs.Session.Display

/-! Overlapping calls against calls one after the other. A run in which calls overlap goes alongside the
run that executes each call to its end where it was started: the numbers and the forecasts of the calls
agree after every step, and nothing else decides what a call ends in, its badge apart. Once all calls
have ended the display agrees as well. -/
namespace QueryPlayground

open Service
open Page (Surface Model)

/-- The step in a run without overlaps: each call is executed where it starts. -/
def Move.atOnce : Move → Option Move
  | .switch tag => some (.switch tag)
  | .connect => some .connect
  | .start query => some (.execute query)
  | .finish _ => none
  | .execute query => some (.execute query)

/-- Pages of one outcome under one number, which differ in their badges at most. -/
structure Page.Model.Alike (model other : Model) : Prop where
  content : model.content = other.content
  stats : model.stats = other.stats
  statsHtml : model.statsHtml = other.statsHtml
  succeeded : model.succeeded = other.succeeded
  sequence : model.sequence = other.sequence

namespace Sitting

/-- Two sittings that will go on alike: the same mode, health and stores, the same number next, the same
answers to come, and calls that hold to the same forecasts. -/
structure Alongside (one other : Sitting × Trace) : Prop where
  selection : one.1.playground.selection = other.1.playground.selection
  dispatcher : one.1.playground.dispatcher = other.1.playground.dispatcher
  counts : one.2.counts = other.2.counts
  length : one.1.calls.length = other.1.calls.length
  calls : ∀ (place : Nat) (call call' : Pending), one.1.calls[place]? = some call →
    other.1.calls[place]? = some call' →
    ∃ forecast sequence, call.Fulfils forecast sequence ∧ call'.Fulfils forecast sequence

variable {one other : Sitting × Trace} {outside : Outside}

theorem Alongside.refl {sitting : Sitting} (h : sitting.Kept) (trace : Trace) :
    Alongside (sitting, trace) (sitting, trace) where
  selection := rfl
  dispatcher := rfl
  counts := rfl
  length := rfl
  calls := by
    intro place call call' hCall hCall'
    obtain ⟨forecast, hFulfils⟩ := h.fulfilled place call hCall
    obtain rfl : call = call' := Option.some.inj (hCall.symm.trans hCall')
    exact ⟨forecast, place + 1, hFulfils, hFulfils⟩

theorem Alongside.symm (h : Alongside one other) : Alongside other one where
  selection := h.selection.symm
  dispatcher := h.dispatcher.symm
  counts := h.counts.symm
  length := h.length.symm
  calls := by
    intro place call call' hCall hCall'
    obtain ⟨forecast, sequence, hFulfils, hFulfils'⟩ := h.calls place call' call hCall' hCall
    exact ⟨forecast, sequence, hFulfils', hFulfils⟩

theorem Alongside.switch (h : Alongside one other) (tag : String) :
    Alongside ((one.1.step (.switch tag)).perform outside one.2)
      ((other.1.step (.switch tag)).perform outside other.2) := by
  rw [step_switch, step_switch]
  exact ⟨by simp only [h.selection], h.dispatcher, h.counts, h.length, h.calls⟩

theorem Alongside.connect (h : Alongside one other) :
    Alongside ((one.1.step .connect).perform outside one.2)
      ((other.1.step .connect).perform outside other.2) := by
  obtain ⟨hSitting, hCounts⟩ := one.1.step_connect outside one.2
  obtain ⟨hSitting', hCounts'⟩ := other.1.step_connect outside other.2
  have hHeard : one.1.playground.heard outside one.2.counts =
      other.1.playground.heard outside other.2.counts := by
    unfold Playground.heard
    rw [h.selection, h.dispatcher, h.counts]
  refine ⟨?_, ?_, ?_, ?_, ?_⟩
  · rw [hSitting, hSitting', hHeard]
  · rw [hSitting, hSitting']
    exact h.dispatcher
  · rw [hCounts, hCounts', hHeard]
  · rw [hSitting, hSitting']
    exact h.length
  · rw [hSitting, hSitting']
    exact h.calls

/-- Calls that start alongside hold to one forecast: mode, query, stores and counts are the same. -/
theorem Alongside.start (h : Alongside one other) (query : String) :
    Alongside ((one.1.step (.start query)).perform outside one.2)
      ((other.1.step (.start query)).perform outside other.2) := by
  obtain ⟨call, hCalls, hStarts⟩ := one.1.step_start outside one.2 query
  obtain ⟨call', hCalls', hStarts'⟩ := other.1.step_start outside other.2 query
  have hCall := hStarts.call
  have hCall' := hStarts'.call
  have hCounts := hStarts.counts
  have hDispatcher := hStarts.dispatcher
  rw [h.selection, h.dispatcher, h.counts] at hCall hCounts
  rw [h.dispatcher] at hDispatcher
  refine ⟨?_, ?_, ?_, ?_, ?_⟩
  · rw [hStarts.selection, hStarts'.selection, h.selection]
  · rw [hDispatcher, hStarts'.dispatcher]
  · rw [hCounts, hStarts'.counts]
  · rw [hCalls, hCalls', List.length_append, List.length_append, h.length, List.length_singleton,
      List.length_singleton]
  · intro place next next' hNext hNext'
    rw [hCalls] at hNext
    rw [hCalls'] at hNext'
    have hLength := h.length
    rcases getElem?_concat_cases hNext with hOld | ⟨hPlace, rfl⟩
    · rcases getElem?_concat_cases hNext' with hOld' | ⟨hPlace', _⟩
      · exact h.calls place next next' hOld hOld'
      · obtain ⟨hLess, _⟩ := List.getElem?_eq_some_iff.mp hOld
        omega
    · rcases getElem?_concat_cases hNext' with hOld' | ⟨_, rfl⟩
      · obtain ⟨hLess, _⟩ := List.getElem?_eq_some_iff.mp hOld'
        omega
      · exact ⟨_, _, hCall, hCall'⟩

/-- The end of a wait leaves the two alongside: the call keeps its forecast. -/
theorem Alongside.finish (h : Alongside one other) (place : Nat) :
    Alongside ((one.1.step (.finish place)).perform outside one.2) other := by
  by_cases hWaiting : ∃ flight, one.1.calls[place]? = some (.waiting flight)
  · obtain ⟨flight, hWaiting⟩ := hWaiting
    obtain ⟨result, hCalls, hFinishes, hCounts⟩ := one.1.step_finish outside one.2 hWaiting
    refine ⟨?_, ?_, ?_, ?_, ?_⟩
    · rw [hFinishes.selection, h.selection]
    · rw [hFinishes.dispatcher, h.dispatcher]
    · rw [hCounts, h.counts]
    · rw [hCalls, List.length_set, h.length]
    · intro place' call call' hCall hCall'
      rw [hCalls] at hCall
      rcases getElem?_set_cases hCall with ⟨rfl, rfl⟩ | ⟨_, hOld⟩
      · obtain ⟨forecast, sequence, hFlight, hFulfils⟩ := h.calls place' _ call' hWaiting hCall'
        cases hFlight with
        | waiting hForecast hSequence =>
            have hEnd := hFinishes.call
            rw [hForecast, hSequence] at hEnd
            exact ⟨forecast, sequence, hEnd, hFulfils⟩
      · exact h.calls place' call call' hOld hCall'
  · rw [step_finish_idle _ _ _ fun flight hFlight => hWaiting ⟨flight, hFlight⟩]
    exact h

/-- One of the two may execute what the other only starts. -/
theorem Alongside.execute (h : Alongside one other) (query : String) :
    Alongside ((one.1.step (.execute query)).perform outside one.2)
      ((other.1.step (.start query)).perform outside other.2) := by
  rw [step_execute]
  simp only [run, Act.perform_bind, Act.perform_pure]
  exact (h.start query).finish one.1.calls.length

theorem Alongside.execute_both (h : Alongside one other) (query : String) :
    Alongside ((one.1.step (.execute query)).perform outside one.2)
      ((other.1.step (.execute query)).perform outside other.2) := by
  rw [other.1.step_execute]
  simp only [run, Act.perform_bind, Act.perform_pure]
  exact ((h.execute query).symm.finish other.1.calls.length).symm

theorem run_atOnce_cons {move next : Move} (hMove : move.atOnce = some next) (moves : List Move)
    (sitting : Sitting) (trace : Trace) :
    (sitting.run ((move :: moves).filterMap Move.atOnce)).perform outside trace =
      (((sitting.step next).perform outside trace).1.run (moves.filterMap Move.atOnce)).perform outside
        ((sitting.step next).perform outside trace).2 := by
  rw [List.filterMap_cons_some hMove, Sitting.run, Act.perform_bind]

/-- A run goes alongside the run without overlaps. -/
theorem Alongside.run (h : Alongside one other) (moves : List Move) :
    Alongside ((one.1.run moves).perform outside one.2)
      ((other.1.run (moves.filterMap Move.atOnce)).perform outside other.2) := by
  induction moves generalizing one other with
  | nil =>
      rw [List.filterMap_nil, Sitting.run, Sitting.run, Act.perform_pure, Act.perform_pure]
      exact h
  | cons move moves ih =>
      rw [Sitting.run, Act.perform_bind]
      cases move with
      | finish place => exact ih (h.finish place)
      | switch tag =>
          rw [run_atOnce_cons rfl]
          exact ih (h.switch tag)
      | connect =>
          rw [run_atOnce_cons rfl]
          exact ih h.connect
      | start query =>
          rw [run_atOnce_cons rfl]
          exact ih (h.symm.execute query).symm
      | execute query =>
          rw [run_atOnce_cons rfl]
          exact ih (h.execute_both query)

/-! ### The ends of calls -/

/-- Without overlaps no call waits between two steps. -/
theorem run_atOnce_isThrough (sitting : Sitting) (trace : Trace) (moves : List Move)
    (h : ∀ call ∈ sitting.calls, call.isThrough = true) :
    ∀ call ∈ ((sitting.run (moves.filterMap Move.atOnce)).perform outside trace).1.calls,
      call.isThrough = true := by
  have hExecute (sitting : Sitting) (trace : Trace) (query : String)
      (h : ∀ call ∈ sitting.calls, call.isThrough = true) :
      ∀ call ∈ ((sitting.step (.execute query)).perform outside trace).1.calls, call.isThrough = true := by
    simp only [step, Act.perform_bind, Act.perform_pure, List.mem_append, List.mem_singleton]
    rintro call (hCall | rfl)
    · exact h call hCall
    · rfl
  induction moves generalizing sitting trace with
  | nil =>
      rw [List.filterMap_nil, Sitting.run, Act.perform_pure]
      exact h
  | cons move moves ih =>
      cases move with
      | finish place => exact ih sitting trace h
      | switch tag =>
          rw [run_atOnce_cons rfl, step_switch]
          exact ih _ _ h
      | connect =>
          rw [run_atOnce_cons rfl]
          refine ih _ _ ?_
          rw [(sitting.step_connect outside trace).1]
          exact h
      | start query =>
          rw [run_atOnce_cons rfl]
          exact ih _ _ (hExecute sitting trace query h)
      | execute query =>
          rw [run_atOnce_cons rfl]
          exact ih _ _ (hExecute sitting trace query h)

/-- On a playground with the stores of the seed, every call holds to a forecast with a page. -/
structure Presentable (client : Client) (stamp : Int) (sitting : Sitting) : Prop where
  registry : sitting.playground.dispatcher.registry = .seeded client stamp
  calls : ∀ call ∈ sitting.calls, ∃ forecast sequence, Renders forecast ∧ call.Fulfils forecast sequence

theorem run_presentable {client : Client} (latency : Bool) (mode : Mode) {stamp : Int}
    (hStamp : Text.isWritable stamp = true)
    (hAddress : ∃ address, Address.normalize (client.url client.queryPath) = .ok address)
    (hOutside : outside.Answers) (trace : Trace) (moves : List Move) :
    Presentable client stamp (((fresh client latency mode stamp).run moves).perform outside trace).1 := by
  refine run_induction (P := Presentable client stamp) _ outside trace ?_ ?_ ?_ moves ⟨rfl, by simp [fresh]⟩
  · intro sitting selection h
    exact ⟨h.registry, h.calls⟩
  · intro sitting counts query after call countsAfter h hStarts
    have hRenders := Dispatcher.forecast_renders h.registry hStamp hAddress hOutside counts
      (Text.trim query) sitting.playground.selection.mode
    refine ⟨by rw [hStarts.dispatcher]; exact h.registry, ?_⟩
    intro other hOther
    rcases List.mem_append.mp hOther with hOld | hNew
    · exact h.calls other hOld
    · rw [List.mem_singleton.mp hNew]
      exact ⟨_, _, hRenders, hStarts.call⟩
  · intro sitting place flight after result h hWaiting hFinishes
    refine ⟨by rw [hFinishes.dispatcher]; exact h.registry, ?_⟩
    intro other hOther
    rcases List.mem_or_eq_of_mem_set hOther with hOld | rfl
    · exact h.calls other hOld
    · obtain ⟨forecast, sequence, hRenders, hFlight⟩ := h.calls _ (List.mem_of_getElem? hWaiting)
      cases hFlight with
      | waiting hForecast hSequence => exact ⟨flight.forecast, _, hForecast ▸ hRenders, hFinishes.call⟩

end Sitting

/-- A call that has ended as a forecast with a page has ended in a model. -/
theorem Pending.Fulfils.exists_model {forecast : Except Escape Outcome} {sequence : Nat} {call : Pending}
    (h : call.Fulfils forecast sequence) (hRenders : Renders forecast) (hThrough : call.isThrough = true) :
    ∃ model, call = .through (.ok model) := by
  obtain ⟨outcome, regions, rfl, hRegions⟩ := hRenders
  cases h with
  | waiting hForecast hSequence => cases hThrough
  | through elapsed hPage =>
      subst hPage
      simp only [Except.bind, Page.render, hRegions]
      exact ⟨_, rfl⟩

/-- Two models that hold to one forecast are alike: they differ by the time that the call took. -/
theorem Pending.Fulfils.alike {forecast : Except Escape Outcome} {sequence : Nat} {model other : Model}
    (h : (Pending.through (.ok model)).Fulfils forecast sequence)
    (hOther : (Pending.through (.ok other)).Fulfils forecast sequence) : model.Alike other := by
  cases h with
  | through elapsed hPage =>
      cases hOther with
      | through elapsed' hPage' =>
          cases forecast with
          | error escape => cases hPage
          | ok outcome =>
              simp only [Except.bind, Page.render] at hPage hPage'
              cases hRegions : Page.regions outcome with
              | error fault =>
                  rw [hRegions] at hPage
                  cases hPage
              | ok regions =>
                  rw [hRegions] at hPage hPage'
                  cases hPage
                  cases hPage'
                  exact ⟨rfl, rfl, rfl, rfl, rfl⟩

namespace Sitting

/-- All calls have ended in models. -/
def Ended (sitting : Sitting) : Prop := ∀ call ∈ sitting.calls, ∃ model, call = .through (.ok model)

theorem Presentable.ended {client : Client} {stamp : Int} {sitting : Sitting}
    (h : Presentable client stamp sitting) (hThrough : ∀ call ∈ sitting.calls, call.isThrough = true) :
    sitting.Ended := by
  intro call hCall
  obtain ⟨forecast, sequence, hRenders, hFulfils⟩ := h.calls call hCall
  exact hFulfils.exists_model hRenders (hThrough call hCall)

/-- The last call's model is the only one with so late a number. -/
theorem Numbered.eq_last {sitting : Sitting} (h : sitting.Numbered) {place : Nat} {last model : Model}
    (hPlace : place + 1 = sitting.calls.length)
    (hLast : sitting.calls[place]? = some (.through (.ok last)))
    (hModel : .through (.ok model) ∈ sitting.calls) (hLate : last.sequence ≤ model.sequence) :
    last = model := by
  obtain ⟨place', hPlace'⟩ := List.mem_iff_getElem?.mp hModel
  obtain ⟨hLess, _⟩ := List.getElem?_eq_some_iff.mp hPlace'
  have hNumber := h.numbers _ _ hLast last.sequence rfl
  have hNumber' := h.numbers _ _ hPlace' model.sequence rfl
  obtain rfl : place' = place := by omega
  rw [hLast] at hPlace'
  cases hPlace'
  rfl

/-- Once all calls have ended in models no placeholder is left. -/
theorem OnDisplay.surface_of_ended {sitting : Sitting} {shown : Option Model}
    (h : sitting.OnDisplay shown) (hEnded : sitting.Ended) :
    sitting.playground.surface = ⟨shown.elim [] Model.content, shown.elim [] Model.badge,
      shown.elim [] Model.statsHtml, shown.elim 0 Model.sequence⟩ := by
  have hResults : sitting.playground.surface.results = shown.elim [] Model.content := by
    refine h.results.resolve_right fun hLoading => ?_
    obtain ⟨place, call, hPlace, hSilent, _⟩ := h.placeholder hLoading
    obtain ⟨model, rfl⟩ := hEnded call (List.mem_of_getElem? hPlace)
    cases hSilent
  rw [← hResults, ← h.badge, ← h.stats, ← h.lastSequence]

/-- Once all calls have ended in models, the last call's model is on display as a whole. -/
theorem Kept.surface_of_ended {sitting : Sitting} (h : sitting.Kept) (hEnded : sitting.Ended) :
    sitting.calls = [] ∧ sitting.playground.surface = .empty ∨
      ∃ (place : Nat) (last : Model), place + 1 = sitting.calls.length ∧
        sitting.calls[place]? = some (.through (.ok last)) ∧
        sitting.playground.surface = ⟨last.content, last.badge, last.statsHtml, last.sequence⟩ := by
  obtain ⟨shown, hShown⟩ := h.onDisplay
  have hSurface := hShown.surface_of_ended hEnded
  rcases List.eq_nil_or_concat sitting.calls with hNil | ⟨calls, call, hCalls⟩
  · refine Or.inl ⟨hNil, ?_⟩
    cases shown with
    | none => exact hSurface
    | some model =>
        obtain ⟨call, hCall, _⟩ := hShown.published model rfl
        simp [hNil] at hCall
  · have hPlace : sitting.calls[calls.length]? = some call := by
      rw [hCalls, List.concat_eq_append, List.getElem?_concat_length]
    have hLength : calls.length + 1 = sitting.calls.length := by
      rw [hCalls, List.length_concat]
    have hCall := List.mem_of_getElem? hPlace
    obtain ⟨last, rfl⟩ := hEnded call hCall
    refine Or.inr ⟨calls.length, last, hLength, hPlace, ?_⟩
    cases shown with
    | none => cases hShown.nothing rfl _ hCall
    | some latest =>
        obtain ⟨other, hOther, hLatest⟩ := hShown.published latest rfl
        obtain ⟨model, rfl⟩ := hEnded other hOther
        cases hLatest
        have hLate := hShown.latest _ hCall last rfl
        rw [hShown.lastSequence] at hLate
        obtain rfl := h.numbered.eq_last hLength hPlace hOther hLate
        exact hSurface

/-- Sittings whose calls have ended alike show the same, badges apart. -/
theorem Kept.surface_agrees {sitting other : Sitting} (h : sitting.Kept) (hOther : other.Kept)
    (hEnded : sitting.Ended) (hOtherEnded : other.Ended)
    (hLength : sitting.calls.length = other.calls.length)
    (hAlike : ∀ (place : Nat) (model model' : Model),
      sitting.calls[place]? = some (.through (.ok model)) →
      other.calls[place]? = some (.through (.ok model')) → model.Alike model') :
    sitting.playground.surface.results = other.playground.surface.results ∧
      sitting.playground.surface.stats = other.playground.surface.stats ∧
      sitting.playground.surface.lastSequence = other.playground.surface.lastSequence := by
  rcases h.surface_of_ended hEnded with ⟨hNil, hSurface⟩ | ⟨place, last, hPlace, hLast, hSurface⟩
  · rcases hOther.surface_of_ended hOtherEnded with ⟨_, hSurface'⟩ | ⟨place', _, hPlace', _⟩
    · rw [hSurface, hSurface']
      exact ⟨rfl, rfl, rfl⟩
    · rw [hNil, List.length_nil] at hLength
      omega
  · rcases hOther.surface_of_ended hOtherEnded with
      ⟨hNil', _⟩ | ⟨place', last', hPlace', hLast', hSurface'⟩
    · rw [hNil', List.length_nil] at hLength
      omega
    · obtain rfl : place' = place := by omega
      have hSame := hAlike _ _ _ hLast hLast'
      rw [hSurface, hSurface']
      exact ⟨hSame.content, hSame.statsHtml, hSame.sequence⟩

/-- The badge on display is that of the model with the highest number. -/
theorem Kept.badge_of_latest {sitting : Sitting} (h : sitting.Kept) (hEnded : sitting.Ended) {model : Model}
    (hModel : .through (.ok model) ∈ sitting.calls)
    (hLatest : ∀ other ∈ sitting.calls, ∀ earlier ∈ other.model?, earlier.sequence ≤ model.sequence) :
    sitting.playground.surface.badge = model.badge := by
  rcases h.surface_of_ended hEnded with ⟨hNil, _⟩ | ⟨place, last, hPlace, hLast, hSurface⟩
  · rw [hNil] at hModel
    cases hModel
  · have hLate := hLatest _ (List.mem_of_getElem? hLast) last rfl
    obtain rfl := h.numbered.eq_last hPlace hLast hModel hLate
    rw [hSurface]

/-- Overlaps change nothing but times. The stamp must have a decimal text, without which there is no seed,
and the query endpoint an address, without which nothing is sent to it. Once all calls have ended, each has
the page that it has in the run which executes every call to its end where it was started, the display is
that of the other run, and its badge is that of the latest model. -/
theorem run_agrees_atOnce {client : Client} (latency : Bool) (mode : Mode) {stamp : Int} {outside : Outside}
    (hStamp : Text.isWritable stamp = true)
    (hAddress : ∃ address, Address.normalize (client.url client.queryPath) = .ok address)
    (hOutside : outside.Answers) (moves : List Move)
    (hEnded : ∀ call ∈ (((fresh client latency mode stamp).run moves).perform outside .start).1.calls,
      call.isThrough = true) :
    let overlapped := (((fresh client latency mode stamp).run moves).perform outside .start).1
    let sequential :=
      (((fresh client latency mode stamp).run (moves.filterMap Move.atOnce)).perform outside .start).1
    (overlapped.calls.length = sequential.calls.length ∧
      ∀ place < overlapped.calls.length, ∃ model other : Model,
        overlapped.calls[place]? = some (.through (.ok model)) ∧
        sequential.calls[place]? = some (.through (.ok other)) ∧ model.Alike other) ∧
    (overlapped.playground.surface.results = sequential.playground.surface.results ∧
      overlapped.playground.surface.stats = sequential.playground.surface.stats ∧
      overlapped.playground.surface.lastSequence = sequential.playground.surface.lastSequence) ∧
    ∀ call ∈ overlapped.calls, ∀ model ∈ call.model?,
      (∀ other ∈ overlapped.calls, ∀ earlier ∈ other.model?, earlier.sequence ≤ model.sequence) →
      overlapped.playground.surface.badge = model.badge := by
  intro overlapped sequential
  have hFresh := kept_fresh client latency mode stamp
  have hOverlapped : overlapped.Kept := run_kept hFresh outside .start moves
  have hSequential : sequential.Kept := run_kept hFresh outside .start _
  have hAlongside : Alongside (((fresh client latency mode stamp).run moves).perform outside .start)
      (((fresh client latency mode stamp).run (moves.filterMap Move.atOnce)).perform outside .start) :=
    (Alongside.refl hFresh .start).run moves
  have hEnds : overlapped.Ended :=
    (run_presentable latency mode hStamp hAddress hOutside .start moves).ended hEnded
  have hEnds' : sequential.Ended :=
    (run_presentable latency mode hStamp hAddress hOutside .start _).ended
      (run_atOnce_isThrough _ .start moves (by simp [fresh]))
  have hLength : overlapped.calls.length = sequential.calls.length := hAlongside.length
  have hAlike : ∀ (place : Nat) (model other : Model),
      overlapped.calls[place]? = some (.through (.ok model)) →
      sequential.calls[place]? = some (.through (.ok other)) → model.Alike other := by
    intro place model other hCall hCall'
    obtain ⟨forecast, sequence, hFulfils, hFulfils'⟩ := hAlongside.calls place _ _ hCall hCall'
    exact hFulfils.alike hFulfils'
  refine ⟨⟨hLength, ?_⟩, hOverlapped.surface_agrees hSequential hEnds hEnds' hLength hAlike, ?_⟩
  · intro place hPlace
    have hCall := List.getElem?_eq_getElem hPlace
    have hCall' := List.getElem?_eq_getElem (hLength ▸ hPlace)
    obtain ⟨model, hModel⟩ := hEnds _ (List.mem_of_getElem? hCall)
    obtain ⟨other, hOther⟩ := hEnds' _ (List.mem_of_getElem? hCall')
    rw [hModel] at hCall
    rw [hOther] at hCall'
    exact ⟨model, other, hCall, hCall', hAlike place model other hCall hCall'⟩
  · intro call hCall model hModel hLatest
    obtain ⟨model', rfl⟩ := hEnds call hCall
    cases hModel
    exact hOverlapped.badge_of_latest hEnds hCall hLatest

/-- An outside whose service cannot be reached. -/
def offline : Outside where
  clock trace := .ofInt trace.readings.length
  chance _ := .real (.ofRatio false 1 2)
  health _ := .failure "no route to host"
  query _ _ := .failure "no route to host"

theorem offline_answers : offline.Answers where
  chance _ := ⟨_, rfl⟩
  replies := by
    intro n request cause message h
    cases h

/-- Three calls in three modes that end in another order than they start. -/
theorem run_agrees_atOnce_offline :
    let sitting := fresh ⟨"http://sql.test", "/health", "/query"⟩ true .document 5
    let overlapped := ((sitting.run [.start "user:1", .switch "cache", .start "session:user1", .connect,
      .switch "sql", .start "select 1", .finish 2, .finish 0, .finish 1]).perform offline .start).1
    let sequential := ((sitting.run [.execute "user:1", .switch "cache", .execute "session:user1", .connect,
      .switch "sql", .execute "select 1"]).perform offline .start).1
    overlapped.playground.surface.results = sequential.playground.surface.results ∧
      overlapped.playground.surface.stats = sequential.playground.surface.stats ∧
      overlapped.playground.surface.lastSequence = sequential.playground.surface.lastSequence :=
  (run_agrees_atOnce true .document (Json.isWritable_of_lt (by decide))
    ⟨"http://sql.test/query", rfl⟩ offline_answers
    [.start "user:1", .switch "cache", .start "session:user1", .connect, .switch "sql", .start "select 1",
      .finish 2, .finish 0, .finish 1] (by decide +kernel)).2.1

end Sitting
end QueryPlayground
