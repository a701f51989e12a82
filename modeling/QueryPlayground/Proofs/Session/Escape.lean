import QueryPlayground.Proofs.Session.Moves

/-! Queries that escape. Nothing is taken back when a query ends without a model: the placeholder that its start
has put into the results region stays there, and the number that it has taken is used up. All else is as it was
before, and what an escape behind a wait finds on display it leaves there. -/
namespace QueryPlayground

open Service

namespace Playground

/-- A start shows the placeholder and touches nothing else on display, as long as no model comes of it at once. -/
theorem Starts.surface_of_silent {before after : Playground} {outside : Outside} {counts countsAfter : Counts}
    {query : String} {call : Pending} (h : before.Starts outside counts query after call countsAfter)
    (hSilent : call.model? = none) : after.surface = before.surface.showLoading Page.loading := by
  rw [h.surface, hSilent]
  rfl

theorem Finishes.eq_of_error {before after : Playground} {flight : Flight} {escape : Escape}
    (h : before.Finishes flight after (.error escape)) : after = before := by
  obtain ⟨selection, dispatcher, surface⟩ := after
  obtain ⟨rfl, rfl, rfl, -⟩ := h
  rfl

/-- An escape at the end of a wait leaves the playground as it is by then, with all that others have done
meanwhile. -/
theorem finish_escaped {playground left : Playground} {pending : Pending} {outside : Outside} {trace : Trace}
    {escape : Escape} (h : ((playground.finish pending).perform outside trace).1 = (left, .error escape)) :
    left = playground := by
  cases pending with
  | through result =>
      rw [finish, Act.perform_pure] at h
      cases h
      rfl
  | waiting flight =>
      obtain ⟨hFinishes, -⟩ := playground.finish_spec outside trace flight
      rw [h] at hFinishes
      exact hFinishes.eq_of_error

/-- A query that escapes leaves the placeholder in the results region, whatever stood there before. The badge, the
statistics and the number on display stay as they were, and so do the mode and the health; its own number is used
up. -/
theorem execute_escaped {playground left : Playground} {query : String} {outside : Outside} {trace after : Trace}
    {escape : Escape} (h : (playground.execute query).perform outside trace = ((left, .error escape), after)) :
    left.surface.results = Page.loading ∧ left.surface.badge = playground.surface.badge ∧
      left.surface.stats = playground.surface.stats ∧
      left.surface.lastSequence = playground.surface.lastSequence ∧
      left.selection = playground.selection ∧
      left.dispatcher = { playground.dispatcher with issued := playground.dispatcher.issued + 1 } := by
  have hStarts := playground.start_spec outside trace query
  simp only [execute, Act.perform_bind] at h
  generalize (playground.start query).perform outside trace = started at hStarts h
  obtain ⟨⟨begun, call⟩, trace'⟩ := started
  obtain rfl : left = begun := finish_escaped (congrArg Prod.fst h)
  -- The start has come to no model: the query waited, or it escaped at once.
  have hSilent : call.model? = none := by
    cases call with
    | waiting flight => rfl
    | through result =>
        rw [finish, Act.perform_pure] at h
        cases h
        rfl
  rw [hStarts.surface_of_silent hSilent]
  exact ⟨rfl, rfl, rfl, rfl, hStarts.selection, hStarts.dispatcher⟩

/-- An entry of the cache that is no JSON text, asked for after a pause while the page of another query is on
display. -/
theorem execute_escaped_broken_entry :
    let client : Client := ⟨"http://sql.test", "/", "/api/query"⟩
    let outside : Outside :=
      ⟨fun _ => .zero, fun _ => .real .zero, fun _ => .failure "down", fun _ _ => .failure "down"⟩
    let registry : Registry := ⟨client, ⟨[]⟩, ⟨[("k", "[1,")]⟩⟩
    let playground : Playground :=
      ⟨.initial .cache, ⟨registry, true, 3⟩, ⟨"<p>old</p>".toList, "old".toList, "<i>3</i>".toList, 3⟩⟩
    let executed := ((playground.execute " k ").perform outside .start).1
    (∃ escape, executed.2 = .error escape) ∧
      executed.1.surface = ⟨Page.loading, "old".toList, "<i>3</i>".toList, 3⟩ ∧
      executed.1.selection = .initial .cache := by
  intro client outside registry playground executed
  have hEscaped : executed.2.isOk = false := by decide +kernel
  cases hRun : (playground.execute " k ").perform outside .start with
  | mk run after =>
      obtain ⟨left, result⟩ := run
      have hExecuted : executed = (left, result) := congrArg Prod.fst hRun
      rw [hExecuted] at hEscaped ⊢
      cases result with
      | ok model => cases hEscaped
      | error escape =>
          obtain ⟨hResults, hBadge, hStats, hNumber, hSelection, -⟩ := execute_escaped hRun
          obtain ⟨selection, dispatcher, results, badge, stats, lastSequence⟩ := left
          obtain ⟨rfl, rfl, rfl, rfl⟩ := And.intro hResults (And.intro hBadge (And.intro hStats hNumber))
          exact ⟨⟨escape, rfl⟩, rfl, hSelection⟩

/-- A query to a service whose exchange is aborted, on a playground where nothing has been shown yet. The
placeholder stays behind. -/
theorem execute_aborted_placeholder :
    let client : Client := ⟨"http://sql.test", "/", "/api/query"⟩
    let outside : Outside :=
      ⟨fun _ => .zero, fun _ => .real .zero, fun _ => .failure "down", fun _ _ => .abort .runtime "boom"⟩
    let playground := fresh client true .sql 5
    let executed := ((playground.execute "select 1").perform outside .start).1
    (∃ escape, executed.2 = .error escape) ∧ executed.1.surface ≠ playground.surface := by
  intro client outside playground executed
  have hEscaped : executed.2.isOk = false := by decide +kernel
  have hSurface : executed.1.surface ≠ playground.surface := by decide +kernel
  refine ⟨?_, hSurface⟩
  cases hResult : executed.2 with
  | error escape => exact ⟨escape, rfl⟩
  | ok model =>
      rw [hResult] at hEscaped
      cases hEscaped

end Playground
end QueryPlayground
