import QueryPlayground.Proofs.Page.Regions
import QueryPlayground.Proofs.Session.Moves

/-! What is on display while calls overlap. A start writes one region and a model writes three or none,
in whatever order calls are started, finished or given up. Still the badge and the statistics are always
those of one model, the latest that has been published, and a placeholder that stays on display has a
call behind it which came after that model and has shown nothing. -/
namespace QueryPlayground

open Page (Surface Model)

/-! ### Pages and the placeholder -/

theorem Page.ne_loading {start : List Char} (rest : Html) (hStart : start.isPrefixOf Page.loading = false) :
    start ++ rest ≠ Page.loading := by
  intro h
  have hPrefix : start <+: Page.loading := ⟨rest, h⟩
  rw [← List.isPrefixOf_iff_prefix, hStart] at hPrefix
  cases hPrefix

/-- No page is taken for the placeholder. -/
theorem Page.regions_ne_loading {outcome : Outcome} {content : Html} {stats : Page.Panel}
    (h : Page.regions outcome = .ok (content, stats)) : content ≠ Page.loading := by
  have hView (rest : Html) : "<div class=\"json-view\">".toList ++ rest ≠ Page.loading :=
    Page.ne_loading rest rfl
  cases outcome with
  | table columns rows time =>
      cases h
      unfold Page.tableView
      split
      · decide
      · exact Page.ne_loading _ rfl
  | document data =>
      simp only [Page.regions] at h
      split at h
      · cases h
      · cases h
        exact hView _
  | cacheHit data =>
      cases h
      exact hView _
  | scalar value message =>
      cases h
      exact Page.ne_loading _ rfl
  | success message =>
      cases h
      exact Page.ne_loading _ rfl
  | keyList keys =>
      cases h
      exact hView _
  | failure message =>
      cases h
      exact Page.ne_loading _ rfl

/-- A page carries the number of its dispatch. -/
theorem Page.render_ok {outcome : Outcome} {elapsed : Binary64} {sequence : Int} {model : Model}
    (h : Page.render outcome elapsed sequence = .ok model) :
    model.sequence = sequence ∧ model.content ≠ Page.loading := by
  obtain ⟨hRegions, _, hSequence⟩ := Page.regions_of_render h
  exact ⟨hSequence, Page.regions_ne_loading hRegions⟩

theorem Pending.Fulfils.model {forecast : Except Escape Outcome} {sequence : Nat} {call : Pending}
    (h : call.Fulfils forecast sequence) {model : Model} (hModel : call.model? = some model) :
    model.sequence = sequence ∧ model.content ≠ Page.loading := by
  cases h with
  | waiting hForecast hSequence => cases hModel
  | through elapsed hPage =>
      subst hPage
      cases forecast with
      | error escape => cases hModel
      | ok outcome =>
          simp only [Except.bind] at hModel
          cases hRender : Page.render outcome elapsed sequence with
          | error fault =>
              rw [hRender] at hModel
              cases hModel
          | ok page =>
              rw [hRender] at hModel
              cases hModel
              exact Page.render_ok hRender

/-! ### One model on display -/

/-- The regions against the models of the calls so far, in the order of starts; a call that waits or has
escaped has none. The model on display is the latest; the placeholder may stand in for its content as
long as a later call has no model. -/
structure Displays (surface : Surface) (models : List (Option Model)) (shown : Option Model) : Prop where
  numbered : ∀ (place : Nat) (model : Model), models[place]? = some (some model) →
    model.sequence = place + 1
  framed : ∀ model : Model, some model ∈ models → model.content ≠ Page.loading
  published : ∀ model ∈ shown, some model ∈ models
  latest : ∀ model, some model ∈ models → model.sequence ≤ surface.lastSequence
  badge : surface.badge = shown.elim [] Model.badge
  stats : surface.stats = shown.elim [] Model.statsHtml
  lastSequence : surface.lastSequence = shown.elim 0 Model.sequence
  results : surface.results = shown.elim [] Model.content ∨
    surface.results = Page.loading ∧
      ∃ place : Nat, models[place]? = some none ∧ surface.lastSequence < place + 1

theorem displays_empty : Displays .empty [] none where
  numbered := by simp
  framed := by simp
  published := by simp
  latest := by simp
  badge := rfl
  stats := rfl
  lastSequence := rfl
  results := Or.inl rfl

variable {surface : Surface} {models : List (Option Model)} {shown : Option Model}

theorem Displays.lastSequence_le (h : Displays surface models shown) :
    surface.lastSequence ≤ models.length := by
  rw [h.lastSequence]
  cases shown with
  | none => simp
  | some model =>
      obtain ⟨place, hPlace⟩ := List.mem_iff_getElem?.mp (h.published model rfl)
      obtain ⟨hLength, _⟩ := List.getElem?_eq_some_iff.mp hPlace
      have hNumber := h.numbered place model hPlace
      simp only [Option.elim]
      omega

/-- A start hides the content behind the placeholder, and the call that it adds is later than what the
badge and the statistics show. -/
theorem Displays.showLoading (h : Displays surface models shown) :
    Displays (surface.showLoading Page.loading) (models ++ [none]) shown := by
  have hOld {place : Nat} {model : Model} (hPlace : (models ++ [none])[place]? = some (some model)) :
      models[place]? = some (some model) := by
    rcases getElem?_concat_cases hPlace with hOld | ⟨_, hNone⟩
    · exact hOld
    · cases hNone
  have hLast := h.lastSequence_le
  exact {
    numbered := fun place model hPlace => h.numbered place model (hOld hPlace)
    framed := fun model hModel => h.framed model (by simpa using hModel)
    published := fun model hModel => List.mem_append_left _ (h.published model hModel)
    latest := fun model hModel => h.latest model (by simpa using hModel)
    badge := h.badge
    stats := h.stats
    lastSequence := h.lastSequence
    results := Or.inr ⟨rfl, models.length, List.getElem?_concat_length, by
      simp only [Surface.showLoading]
      omega⟩ }

theorem mem_set_some {models : List (Option Model)} {place : Nat} {model other : Model}
    (h : some other ∈ models.set place (some model)) : some other ∈ models ∨ other = model := by
  rcases List.mem_or_eq_of_mem_set h with hOld | hNew
  · exact Or.inl hOld
  · exact Or.inr (Option.some.inj hNew)

/-- A model from a call without one keeps the numbers in the order of starts. -/
theorem Displays.numbered_set (h : Displays surface models shown) {place : Nat} {model : Model}
    (hNumber : model.sequence = place + 1) (place' : Nat) (other : Model)
    (hOther : (models.set place (some model))[place']? = some (some other)) :
    other.sequence = place' + 1 := by
  rcases getElem?_set_cases hOther with ⟨rfl, hNew⟩ | ⟨_, hOld⟩
  · cases hNew
    exact hNumber
  · exact h.numbered place' other hOld

theorem Displays.framed_set (h : Displays surface models shown) {place : Nat} {model : Model}
    (hContent : model.content ≠ Page.loading) (other : Model)
    (hOther : some other ∈ models.set place (some model)) : other.content ≠ Page.loading := by
  rcases mem_set_some hOther with hOld | rfl
  · exact h.framed other hOld
  · exact hContent

/-- A model that is older than the one on display is dropped. The call behind the placeholder is later
than the model on display, so it is not the one that has just ended. -/
theorem Displays.drop (h : Displays surface models shown) {place : Nat} {model : Model}
    (hPlace : models[place]? = some none) (hNumber : model.sequence = place + 1)
    (hContent : model.content ≠ Page.loading) (hOlder : model.sequence < surface.lastSequence) :
    Displays surface (models.set place (some model)) shown := by
  refine ⟨h.numbered_set hNumber, h.framed_set hContent, ?_, ?_, h.badge, h.stats, h.lastSequence, ?_⟩
  · intro other hOther
    obtain ⟨place', hPlace'⟩ := List.mem_iff_getElem?.mp (h.published other hOther)
    refine List.mem_of_getElem? (i := place') ?_
    rw [List.getElem?_set_ne, hPlace']
    rintro rfl
    rw [hPlace] at hPlace'
    cases hPlace'
  · intro other hOther
    rcases mem_set_some hOther with hOld | rfl
    · exact h.latest other hOld
    · omega
  · refine h.results.imp_right ?_
    rintro ⟨hLoading, place', hPlace', hLater⟩
    refine ⟨hLoading, place', ?_, hLater⟩
    rw [List.getElem?_set_ne (by omega), hPlace']

/-- Any other model takes the whole display over, the placeholder included. -/
theorem Displays.take (h : Displays surface models shown) {place : Nat} {model : Model}
    (hPlace : models[place]? = some none) (hNumber : model.sequence = place + 1)
    (hContent : model.content ≠ Page.loading) (hNewer : surface.lastSequence ≤ model.sequence) :
    Displays ⟨model.content, model.badge, model.statsHtml, model.sequence⟩
      (models.set place (some model)) (some model) := by
  obtain ⟨hLength, _⟩ := List.getElem?_eq_some_iff.mp hPlace
  refine ⟨h.numbered_set hNumber, h.framed_set hContent, ?_, ?_, rfl, rfl, rfl, Or.inl rfl⟩
  · rintro other ⟨⟩
    exact List.mem_set hLength (some model)
  · intro other hOther
    rcases mem_set_some hOther with hOld | rfl
    · exact Int.le_trans (h.latest other hOld) hNewer
    · exact Int.le_refl _

/-- A model that comes from a call without one is shown, unless a later one is there already. -/
theorem Displays.receive (h : Displays surface models shown) {place : Nat} {model : Model}
    (hPlace : models[place]? = some none) (hNumber : model.sequence = place + 1)
    (hContent : model.content ≠ Page.loading) :
    ∃ shown, Displays (surface.apply model) (models.set place (some model)) shown := by
  cases hStale : surface.isStale model with
  | true =>
      rw [Surface.apply, if_pos hStale]
      simp only [Surface.isStale, Bool.and_eq_true, decide_eq_true_eq] at hStale
      exact ⟨shown, h.drop hPlace hNumber hContent hStale.2⟩
  | false =>
      rw [Surface.apply, if_neg (by simp [hStale])]
      simp only [Surface.isStale, Bool.and_eq_false_iff, decide_eq_false_iff_not, bne_eq_false_iff_eq] at hStale
      have hNewer : surface.lastSequence ≤ model.sequence := by omega
      rw [Int.max_eq_right hNewer]
      exact ⟨some model, h.take hPlace hNumber hContent hNewer⟩

/-- What a call has ended in is shown, be it a model or nothing. -/
theorem Displays.receive? (h : Displays surface models shown) {place : Nat} {forecast : Except Escape Outcome}
    {call : Pending} (hPlace : models[place]? = some none) (hCall : call.Fulfils forecast (place + 1)) :
    ∃ shown, Displays (surface.receive call.model?) (models.set place call.model?) shown := by
  cases hModel : call.model? with
  | none =>
      obtain ⟨hLength, hValue⟩ := List.getElem?_eq_some_iff.mp hPlace
      have hSame : models.set place none = models := by rw [← hValue, List.set_getElem_self]
      rw [hSame]
      exact ⟨shown, h⟩
  | some model =>
      obtain ⟨hNumber, hContent⟩ := hCall.model hModel
      exact h.receive hPlace (by simpa using hNumber) hContent

theorem Page.Surface.lastSequence_le_receive (surface : Surface) (model : Option Model) :
    surface.lastSequence ≤ (surface.receive model).lastSequence := by
  cases model with
  | none => exact Int.le_refl _
  | some model =>
      simp only [Surface.receive, Surface.apply]
      split
      · exact Int.le_refl _
      · exact Int.le_max_left _ _

namespace Sitting

/-! ### Runs -/

/-- What every step keeps: numbers follow the order of starts, each call holds to some forecast, and one
model is on display. -/
structure Kept (sitting : Sitting) : Prop where
  issued : sitting.playground.dispatcher.issued = sitting.calls.length
  fulfilled : ∀ (place : Nat) (call : Pending), sitting.calls[place]? = some call →
    ∃ forecast, call.Fulfils forecast (place + 1)
  display : ∃ shown, Displays sitting.playground.surface (sitting.calls.map Pending.model?) shown

theorem kept_fresh (client : Service.Client) (latency : Bool) (mode : Mode) (stamp : Int) :
    (fresh client latency mode stamp).Kept :=
  ⟨rfl, by simp [fresh], none, displays_empty⟩

theorem Kept.select {sitting : Sitting} (h : sitting.Kept) (selection : Selection) :
    Kept ⟨{ sitting.playground with selection := selection }, sitting.calls⟩ :=
  ⟨h.issued, h.fulfilled, h.display⟩

theorem Kept.start {sitting : Sitting} {outside : Outside} {counts countsAfter : Counts} {query : String}
    {after : Playground} {call : Pending} (h : sitting.Kept)
    (hStarts : sitting.playground.Starts outside counts query after call countsAfter) :
    Kept ⟨after, sitting.calls ++ [call]⟩ := by
  have hCall := hStarts.call
  rw [h.issued] at hCall
  refine ⟨?_, ?_, ?_⟩
  · rw [hStarts.dispatcher, h.issued, List.length_append, List.length_singleton]
  · intro place other hPlace
    rcases getElem?_concat_cases hPlace with hOld | ⟨rfl, rfl⟩
    · exact h.fulfilled place other hOld
    · exact ⟨_, hCall⟩
  · -- The call counts as one without a model until what it ended in is shown.
    obtain ⟨shown, hShown⟩ := h.display
    have hLast : (sitting.calls.map Pending.model? ++ [none])[sitting.calls.length]? = some none := by
      rw [← List.length_map (f := Pending.model?), List.getElem?_concat_length]
    obtain ⟨shown, hShown⟩ := hShown.showLoading.receive? hLast hCall
    refine ⟨shown, ?_⟩
    rw [hStarts.surface, List.map_append, List.map_singleton]
    rw [← List.length_map (f := Pending.model?)] at hShown
    simpa using hShown

theorem Kept.finish {sitting : Sitting} {place : Nat} {flight : Flight} {after : Playground}
    {result : Except Escape Model} (h : sitting.Kept)
    (hWaiting : sitting.calls[place]? = some (.waiting flight))
    (hFinishes : sitting.playground.Finishes flight after result) :
    Kept ⟨after, sitting.calls.set place (.through result)⟩ := by
  obtain ⟨forecast, hFlight⟩ := h.fulfilled place _ hWaiting
  have hCall := hFinishes.call
  cases hFlight with
  | waiting hForecast hSequence =>
      rw [hSequence] at hCall
      refine ⟨?_, ?_, ?_⟩
      · rw [hFinishes.dispatcher, h.issued, List.length_set]
      · intro place' other hPlace
        rcases getElem?_set_cases hPlace with ⟨rfl, rfl⟩ | ⟨_, hOld⟩
        · exact ⟨_, hCall⟩
        · exact h.fulfilled place' other hOld
      · obtain ⟨shown, hShown⟩ := h.display
        have hSilent : (sitting.calls.map Pending.model?)[place]? = some none := by
          rw [List.getElem?_map, hWaiting]
          rfl
        rw [hFinishes.surface, List.map_set]
        exact hShown.receive? hSilent hCall

/-- The latest number on display never falls. -/
theorem run_lastSequence_le (sitting : Sitting) (outside : Outside) (trace : Trace) (moves : List Move) :
    sitting.playground.surface.lastSequence ≤
      ((sitting.run moves).perform outside trace).1.playground.surface.lastSequence := by
  let atLeast (other : Sitting) : Prop :=
    sitting.playground.surface.lastSequence ≤ other.playground.surface.lastSequence
  refine run_induction (P := atLeast) sitting outside trace ?_ ?_ ?_ moves (Int.le_refl _)
  · exact fun _ _ h => h
  · intro other _ _ after call _ h hStarts
    have hNext := (other.playground.surface.showLoading Page.loading).lastSequence_le_receive call.model?
    rw [← hStarts.surface] at hNext
    exact Int.le_trans h hNext
  · intro other _ _ after result h _ hFinishes
    have hNext := other.playground.surface.lastSequence_le_receive (Pending.through result).model?
    rw [← hFinishes.surface] at hNext
    exact Int.le_trans h hNext

theorem run_append (sitting : Sitting) (outside : Outside) (trace : Trace) (moves later : List Move) :
    (sitting.run (moves ++ later)).perform outside trace =
      (((sitting.run moves).perform outside trace).1.run later).perform outside
        ((sitting.run moves).perform outside trace).2 := by
  induction moves generalizing sitting trace with
  | nil => rw [List.nil_append, run, Act.perform_pure]
  | cons move moves ih =>
      rw [List.cons_append, run, run, Act.perform_bind, Act.perform_bind, ih]

theorem run_kept {sitting : Sitting} (h : sitting.Kept) (outside : Outside) (trace : Trace)
    (moves : List Move) : ((sitting.run moves).perform outside trace).1.Kept :=
  run_induction sitting outside trace (fun _ selection h => h.select selection)
    (fun _ _ _ _ _ _ h => h.start) (fun _ _ _ _ _ h => h.finish) moves h

/-- One model, or none, owns the whole display. -/
structure OnDisplay (sitting : Sitting) (shown : Option Model) : Prop where
  /-- The model is one that a call has ended in; there is none only if no call has ended in a model. -/
  published : ∀ model ∈ shown, ∃ call ∈ sitting.calls, call.model? = some model
  nothing : shown = none → ∀ call ∈ sitting.calls, call.model? = none
  badge : sitting.playground.surface.badge = shown.elim [] Model.badge
  stats : sitting.playground.surface.stats = shown.elim [] Model.statsHtml
  lastSequence : sitting.playground.surface.lastSequence = shown.elim 0 Model.sequence
  /-- No call has ended in a later model. -/
  latest : ∀ call ∈ sitting.calls, ∀ model ∈ call.model?,
    model.sequence ≤ sitting.playground.surface.lastSequence
  results : sitting.playground.surface.results = shown.elim [] Model.content ∨
    sitting.playground.surface.results = Page.loading
  /-- A call behind the placeholder is later than the model, and it waits or has escaped. -/
  placeholder : sitting.playground.surface.results = Page.loading →
    ∃ (place : Nat) (call : Pending), sitting.calls[place]? = some call ∧ call.model? = none ∧
      sitting.playground.surface.lastSequence < place + 1

/-- Calls go by the numbers from one on, in the order of their starts; those that escape use theirs up. -/
structure Numbered (sitting : Sitting) : Prop where
  issued : sitting.playground.dispatcher.issued = sitting.calls.length
  numbers : ∀ (place : Nat) (call : Pending), sitting.calls[place]? = some call →
    ∀ number ∈ call.number?, number = place + 1

theorem Kept.numbered {sitting : Sitting} (h : sitting.Kept) : sitting.Numbered where
  issued := h.issued
  numbers := by
    intro place call hPlace number hNumber
    obtain ⟨forecast, hCall⟩ := h.fulfilled place call hPlace
    cases call with
    | waiting flight =>
        cases hCall with
        | waiting hForecast hSequence =>
            cases hNumber
            simp [hSequence]
    | through result =>
        cases result with
        | error escape => cases hNumber
        | ok model =>
            cases hNumber
            simpa using (hCall.model rfl).1

theorem Kept.onDisplay {sitting : Sitting} (h : sitting.Kept) : ∃ shown, sitting.OnDisplay shown := by
  obtain ⟨shown, hShown⟩ := h.display
  have hModel {call : Pending} {model : Model} (hCall : call ∈ sitting.calls)
      (hEnd : call.model? = some model) : some model ∈ sitting.calls.map Pending.model? :=
    List.mem_map.mpr ⟨call, hCall, hEnd⟩
  refine ⟨shown, ⟨?_, ?_, hShown.badge, hShown.stats, hShown.lastSequence, ?_, ?_, ?_⟩⟩
  · intro model hPublished
    simpa using hShown.published model hPublished
  · rintro rfl call hCall
    cases hEnd : call.model? with
    | none => rfl
    | some model =>
        obtain ⟨place, hPlace⟩ := List.mem_iff_getElem?.mp (hModel hCall hEnd)
        have hNumber := hShown.numbered place model hPlace
        have hLatest := hShown.latest model (hModel hCall hEnd)
        rw [hShown.lastSequence] at hLatest
        simp only [Option.elim] at hLatest
        omega
  · intro call hCall model hEnd
    exact hShown.latest model (hModel hCall hEnd)
  · exact hShown.results.imp_right And.left
  · intro hLoading
    rcases hShown.results with hContent | ⟨_, place, hPlace, hLater⟩
    · cases shown with
      | none =>
          rw [hLoading] at hContent
          exact absurd hContent (by decide)
      | some model =>
          rw [hLoading] at hContent
          exact absurd hContent.symm (hShown.framed model (hShown.published model rfl))
    · rw [List.getElem?_map, Option.map_eq_some_iff] at hPlace
      obtain ⟨call, hCall, hEnd⟩ := hPlace
      exact ⟨place, call, hCall, hEnd, hLater⟩

/-- Whatever a host does to a playground, and in whatever order: at every moment one published model owns
the display, the numbers follow the starts, and the number on display never falls. -/
theorem run_display (client : Service.Client) (latency : Bool) (mode : Mode) (stamp : Int)
    (outside : Outside) (moves : List Move) :
    let sitting := (((fresh client latency mode stamp).run moves).perform outside .start).1
    (∃ shown, sitting.OnDisplay shown) ∧ sitting.Numbered ∧
      ∀ later, sitting.playground.surface.lastSequence ≤
        (((fresh client latency mode stamp).run (moves ++ later)).perform outside
          .start).1.playground.surface.lastSequence := by
  intro sitting
  have hKept := run_kept (kept_fresh client latency mode stamp) outside .start moves
  refine ⟨hKept.onDisplay, hKept.numbered, ?_⟩
  intro later
  rw [run_append]
  exact run_lastSequence_le _ outside _ later

end Sitting
end QueryPlayground
