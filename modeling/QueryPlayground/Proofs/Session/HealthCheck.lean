import QueryPlayground.Proofs.Session.Answers
import QueryPlayground.Proofs.Session.Moves

/-! Asking for the health. Something is reported whatever bytes the service replies with and however the
transport fails, and all that is no report reads as a service that is not connected. An abort alone goes
past the client, be it one of the exchange or that of an address for which no request can be made. -/
namespace QueryPlayground

open Service

/-- What is reported of a service that is not connected. -/
structure Health.IsDisconnected (health : Health) : Prop where
  connected : health.connected = false
  samples : health.samples = []
  tables : health.tables = []

theorem Health.isDisconnected_disconnected (message : Json) : (Health.disconnected message).IsDisconnected :=
  ⟨rfl, rfl, rfl⟩

/-- Health that tells of a report if there is one, and else of a service that is not connected. -/
def Health.TellsOf (health : Health) (report? : Option Health) : Prop :=
  report? = some health ∨ report? = none ∧ health.IsDisconnected

namespace Service

/-- Bytes that encode a JSON text. Surrogates are no characters of it and count as replaced, and its integers have
no more digits than can be read. -/
def SpellsText (body : List UInt8) : Prop :=
  ∃ s, decodeText? (fun _ => Json.replacement) body = some s ∧
    Json.IsText Text.maxIntegerDigits (String.ofList s)

/-- A body has a value just if its bytes encode a JSON text. -/
theorem bodyValue?_isSome_iff {body : List UInt8} : (bodyValue? body).isSome = true ↔ SpellsText body := by
  unfold bodyValue? readBody SpellsText
  rw [Option.isSome_map]
  cases decodeText? (fun _ => Json.replacement) body with
  | none => simp
  | some s =>
      simp only [Option.bind_some, Option.some.injEq, exists_eq_left', ← Json.readChars_iff fun _ => Json.replacement]
      cases Json.readChars (fun _ => Json.replacement) s with
      | ok value => exact ⟨fun _ => ⟨value, rfl⟩, fun _ => rfl⟩
      | error stop => exact ⟨nofun, nofun⟩

/-- The report in a reply: the health that its payload describes. -/
def Reply.report? (reply : Reply) : Option Health :=
  reply.payload?.bind fun payload => (Health.read payload).toOption

/-- The value of a body tells of the report in it. -/
theorem Client.healthOf_tellsOf (body : Json) :
    (healthOf (.ok body)).1.TellsOf ((envelopeData? body).bind fun payload => (Health.read payload).toOption) := by
  unfold healthOf
  dsimp only
  cases envelopeData? body with
  | none => exact .inr ⟨rfl, Health.isDisconnected_disconnected _⟩
  | some payload =>
      rw [Option.bind_some]
      dsimp only
      cases Health.read payload with
      | ok health => exact .inl rfl
      | error fault => exact .inr ⟨rfl, Health.isDisconnected_disconnected _⟩

/-- A reply that is no abort is read to its end. -/
theorem Client.readHealth_spec (client : Client) {reply : Reply}
    (hReply : ∀ cause message, reply ≠ .abort cause message) :
    ∃ health lines, client.readHealth reply = .ok (health, lines) ∧ health.TellsOf reply.report? := by
  cases reply with
  | abort cause message => exact absurd rfl (hReply cause message)
  | failure message => exact ⟨_, _, rfl, .inr ⟨rfl, Health.isDisconnected_disconnected _⟩⟩
  | response status body =>
      simp only [readHealth, replyValue, Reply.report?, Reply.payload?]
      cases bodyValue? body with
      | none => exact ⟨_, _, rfl, .inr ⟨rfl, Health.isDisconnected_disconnected _⟩⟩
      | some value => exact ⟨_, _, rfl, healthOf_tellsOf value⟩

end Service

namespace Playground

/-- What comes of asking for the health is what is read of the reply. -/
theorem connect_result (playground : Playground) (outside : Outside) (trace : Trace) :
    (playground.connect.perform outside trace).1.2 =
      (playground.dispatcher.registry.client.readHealth
        (outside.nextHealth trace.counts playground.dispatcher.registry.client.healthRequest).1).map Prod.fst := by
  obtain ⟨hReply, -⟩ := exchange_health outside trace playground.dispatcher.registry.client
  simp only [connect, Act.perform_bind, hReply]
  cases playground.dispatcher.registry.client.readHealth
    (outside.nextHealth trace.counts playground.dispatcher.registry.client.healthRequest).1 with
  | error abort =>
      rw [Act.perform_pure]
      rfl
  | ok read =>
      simp only [Act.perform_bind, Act.perform_pure]
      rfl

/-- Asking for the health ends in a report just if the exchange is not aborted; an abort is all that comes of it
otherwise. What is reported is the report in the reply, or that the service is not connected. The latter is
reported whenever the transport has failed or the body is no JSON text. -/
theorem connect_reports_iff (playground : Playground) (outside : Outside) (trace : Trace) :
    let reply := (outside.nextHealth trace.counts playground.dispatcher.registry.client.healthRequest).1
    let result := (playground.connect.perform outside trace).1.2
    ((∃ health, result = .ok health) ↔ ∀ cause message, reply ≠ .abort cause message) ∧
      (∀ cause message, reply = .abort cause message → result = .error ⟨cause, message⟩) ∧
      ∀ health, result = .ok health →
        health.TellsOf reply.report? ∧ (∀ message, reply = .failure message → health.IsDisconnected) ∧
        ∀ status body, reply = .response status body → ¬SpellsText body → health.IsDisconnected := by
  intro reply result
  have hResult : result = (playground.dispatcher.registry.client.readHealth reply).map Prod.fst :=
    connect_result playground outside trace
  clear_value reply result
  subst hResult
  have hAborted : ∀ cause message, reply = .abort cause message →
      (playground.dispatcher.registry.client.readHealth reply).map Prod.fst = .error ⟨cause, message⟩ := by
    rintro cause message rfl
    rfl
  refine ⟨⟨?_, ?_⟩, hAborted, ?_⟩
  · rintro ⟨health, hHealth⟩ cause message hAbort
    rw [hAborted cause message hAbort] at hHealth
    cases hHealth
  · intro hReply
    obtain ⟨health, lines, hRead, -⟩ := playground.dispatcher.registry.client.readHealth_spec hReply
    exact ⟨health, by rw [hRead]; rfl⟩
  · intro health hHealth
    have hReply : ∀ cause message, reply ≠ .abort cause message := by
      intro cause message hAbort
      rw [hAborted cause message hAbort] at hHealth
      cases hHealth
    obtain ⟨other, lines, hRead, hReport⟩ := playground.dispatcher.registry.client.readHealth_spec hReply
    obtain rfl : other = health := by
      rw [hRead] at hHealth
      exact Except.ok.inj hHealth
    have hNothing (hNone : reply.report? = none) : other.IsDisconnected := by
      rcases hReport with hSome | ⟨-, hDisconnected⟩
      · rw [hNone] at hSome
        cases hSome
      · exact hDisconnected
    refine ⟨hReport, ?_, ?_⟩
    · rintro message rfl
      exact hNothing rfl
    · rintro status body rfl hBody
      rw [← bodyValue?_isSome_iff, Bool.not_eq_true, Option.isSome_eq_false_iff, Option.isNone_iff_eq_none]
        at hBody
      refine hNothing ?_
      rw [Reply.report?, Reply.payload?, hBody]
      rfl

/-- An exchange that ends because its address is refused. -/
theorem connect_refused_address :
    let client : Client := ⟨"http://sql.test", "/", "/api/query"⟩
    let outside : Outside :=
      ⟨fun _ => .zero, fun _ => .real .zero, fun _ => .abort .badAddress "Invalid port: 'x'",
        fun _ _ => .failure "down"⟩
    ¬∃ health, ((fresh client true .sql 5).connect.perform outside .start).1.2 = .ok health := by
  intro client outside
  have hAddress :
      Address.normalize (Client.url ⟨"http://sql.test", "/", "/api/query"⟩ "/") = .ok "http://sql.test/" := rfl
  have hRequest : client.healthRequest = .ok ⟨.get, "http://sql.test/", ""⟩ := by
    unfold Client.healthRequest Client.request
    rw [hAddress]
  rintro ⟨health, hHealth⟩
  rw [connect_result] at hHealth
  change (client.readHealth (outside.nextHealth Trace.start.counts client.healthRequest).1).map Prod.fst = _
    at hHealth
  rw [hRequest] at hHealth
  cases hHealth

end Playground
end QueryPlayground
