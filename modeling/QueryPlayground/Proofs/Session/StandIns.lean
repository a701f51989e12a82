import QueryPlayground.Proofs.Session.Journal

/-! Which characters stand for surrogates when a query is through. They are those of the one reply that it has
waited for, if it has waited for one, so there are none where no reply holds a surrogate without its partner. -/
namespace QueryPlayground

open Service

namespace Service

/-- A reply without surrogates that lack their partners: it is read alike whatever stands for them. -/
def Reply.IsPlain : Reply → Prop
  | .response _ body => ∀ standIn other, readBody standIn body = readBody other body
  | _ => True

theorem Reply.IsPlain.standIns {reply : Reply} (h : reply.IsPlain) : reply.standIns = [] := by
  cases reply with
  | response status body =>
      simp only [Reply.standIns, bodyStandIns]
      cases hRead : readBody (fun _ => Json.replacement) body with
      | none => rfl
      | some value =>
          have hOther : readBody (fun _ => '\x00') body = some value := (h _ _).trans hRead
          simp only [hOther, Option.map_some, if_true]
  | failure message => rfl
  | abort cause message => rfl

end Service

namespace Act

variable {α β : Type}

/-- An activity that waits for no reply. -/
def Alone (act : Act α) : Prop :=
  ∀ (outside : Outside) (trace : Trace), (act.perform outside trace).2.standIns = trace.standIns

theorem alone_pure (a : α) : (pure a : Act α).Alone := by
  intro outside trace
  rw [perform_pure]

theorem Alone.bind {act : Act α} {next : α → Act β} (hAct : act.Alone) (hNext : ∀ a, (next a).Alone) :
    (act >>= next).Alone := by
  intro outside trace
  rw [perform_bind]
  exact (hNext _ outside _).trans (hAct outside trace)

theorem alone_log (level : Level) (message : String) : (log level message).Alone := by
  intro outside trace
  rw [perform_log]

theorem alone_logAll (lines : List LogLine) : (logAll lines).Alone := by
  intro outside trace
  rw [perform_logAll]

theorem alone_now : now.Alone := by
  intro outside trace
  rw [perform_now]

theorem alone_draw : draw.Alone := by
  intro outside trace
  rw [perform_draw_eq]

theorem alone_sleep (seconds : Binary64) : (sleep seconds).Alone := by
  intro outside trace
  rw [perform_sleep]

theorem alone_wake (seconds : Binary64) : (wake seconds).Alone := by
  intro outside trace
  rw [perform_wake]

end Act

namespace Dispatcher

theorem alone_conclude (ticket : Ticket) (outcome : Outcome) : (conclude ticket outcome).Alone :=
  Act.alone_now.bind fun _ => (Act.alone_log _ _).bind fun _ => Act.alone_pure _

theorem alone_settle (ticket : Ticket) (store : Store) : (settle ticket store).Alone := by
  unfold settle
  split
  next => exact (alone_conclude _ _).bind fun _ => Act.alone_pure _
  next => exact Act.alone_pure _

theorem alone_launch_stored (latency : Bool) (ticket : Ticket) (store : Store) :
    (launch latency ticket (.stored store)).Alone := by
  unfold launch
  dsimp only
  split
  next =>
      refine Act.alone_draw.bind fun chance => ?_
      split
      next => exact Act.alone_pure _
      next => exact (Act.alone_sleep _).bind fun _ => Act.alone_pure _
  next => exact (alone_settle _ _).bind fun _ => Act.alone_pure _

theorem alone_finish (flight : Flight) : (finish flight).Alone := by
  unfold finish
  split
  next => exact (Act.alone_wake _).bind fun _ => alone_settle _ _
  next =>
      split
      next => exact Act.alone_pure _
      next => exact (Act.alone_logAll _).bind fun _ => (alone_conclude _ _).bind fun _ => Act.alone_pure _

variable (outside : Outside) (trace : Trace)

/-- Only a dispatch to the service waits for a reply, and that is the next one. -/
theorem standIns_launch (latency : Bool) (ticket : Ticket) (engine : Engine) :
    ((launch latency ticket engine).perform outside trace).2.standIns = trace.standIns ∨
      ∃ request, ((launch latency ticket engine).perform outside trace).2.standIns =
        (outside.query trace.queryReplies request).standIns := by
  cases engine with
  | stored store => exact .inl (alone_launch_stored latency ticket store outside trace)
  | remote client =>
      unfold launch
      dsimp only
      cases hRequest : client.queryRequest ticket.query with
      | error fault =>
          left
          dsimp only
          rw [Act.perform_pure]
      | ok request =>
          refine .inr ⟨request, ?_⟩
          simp only [Act.perform_bind, Act.perform_pure,
            Act.perform_send_eq outside trace (Client.method_of_request hRequest)]

theorem standIns_start (dispatcher : Dispatcher) (query tag : String) :
    ((dispatcher.start query tag).perform outside trace).2.standIns = trace.standIns ∨
      ∃ request, ((dispatcher.start query tag).perform outside trace).2.standIns =
        (outside.query trace.queryReplies request).standIns := by
  cases hMode : Mode.parse tag with
  | error refusal =>
      left
      simp only [start, hMode, Act.perform_bind, Act.perform_pure, Act.perform_now]
      exact alone_conclude _ _ outside _
  | ok mode =>
      obtain ⟨message, hStart⟩ := start_known dispatcher query outside trace hMode
      rw [hStart]
      exact standIns_launch outside _ dispatcher.latency _ _

end Dispatcher

/-- A query that is through has heard the next reply at most. -/
theorem Playground.standIns_execute (playground : Playground) (query : String) (outside : Outside) (trace : Trace) :
    ((playground.execute query).perform outside trace).2.standIns = trace.standIns ∨
      ∃ request, ((playground.execute query).perform outside trace).2.standIns =
        (outside.query trace.queryReplies request).standIns := by
  have hStart := Dispatcher.standIns_start outside trace playground.dispatcher (Text.trim query)
    playground.selection.mode.tag
  simp only [execute, start, Act.perform_bind]
  generalize (playground.dispatcher.start (Text.trim query) playground.selection.mode.tag).perform outside trace =
    started at hStart
  obtain ⟨⟨dispatcher, begun⟩, trace'⟩ := started
  cases begun with
  | waiting flight =>
      simp only [finish, Act.perform_bind, Act.perform_pure, Dispatcher.alone_finish flight outside trace']
      exact hStart
  | through result =>
      simp only [finish, Act.perform_pure]
      exact hStart

end QueryPlayground
