import QueryPlayground.Proofs.Session.Answers

/-! The verdict on a query. A dispatch comes to an outcome whatever its tag and query are, whatever the
stores hold under their keys, and whatever bytes the service replies with. It is a failure just when the
tag names no mode or a store does not know the statement; the service never makes one. -/
namespace QueryPlayground

open Service

theorem Mode.parse_eq_error {tag : String} {refusal : Refusal} (h : Mode.parse tag = .error refusal) :
    (∀ mode : Mode, Mode.normalTag tag ≠ mode.tag) ∧ refusal = .unknownMode := by
  refine ⟨?_, ?_⟩
  · intro mode hTag
    rw [Mode.parse_eq_ok_iff.mpr hTag] at h
    cases h
  · unfold Mode.parse at h
    cases hTag : Mode.ofTag? tag with
    | none =>
        rw [hTag] at h
        cases h
        rfl
    | some mode =>
        rw [hTag] at h
        cases h

/-- The messages with which a query is turned down under a tag. -/
inductive Registry.TurnsDown (registry : Registry) (query tag : String) : String → Prop where
  | mode (hTag : ∀ mode : Mode, Mode.normalTag tag ≠ mode.tag) :
      TurnsDown registry query tag "Unknown database type"
  | record (hTag : Mode.normalTag tag = Mode.tag .document) (hQuery : registry.documents.TurnsDown query) :
      TurnsDown registry query tag "Key not found in NoSQL store"
  | entry (hTag : Mode.normalTag tag = Mode.tag .cache) (hQuery : registry.cache.TurnsDown query) :
      TurnsDown registry query tag "Cache key not found"

/-- Replies without a payload: the transport failed, or the body is no JSON text, is no object, or has no
object under `data`. -/
inductive Service.Reply.Barren : Reply → Prop where
  | failed (message : String) : Barren (.failure message)
  | unreadable {status : Int} {body : List UInt8} (hBody : bodyValue? body = none) :
      Barren (.response status body)
  | noObject {status : Int} {body : List UInt8} {value : Json}
      (hBody : bodyValue? body = some value) (hValue : ∀ members, value ≠ .obj members) :
      Barren (.response status body)
  | noData {status : Int} {body : List UInt8} {value : Json}
      (hBody : bodyValue? body = some value) (hData : ∀ members, value.field "data" ≠ .obj members) :
      Barren (.response status body)

theorem Service.Client.envelopeData?_eq_none {value : Json}
    (h : ∀ members, value.field "data" ≠ .obj members) : envelopeData? value = none := by
  unfold envelopeData?
  split
  next members hData => exact absurd hData (h members)
  next => rfl

theorem Service.Reply.Barren.payload?_eq_none {reply : Reply} (h : reply.Barren) : reply.payload? = none := by
  cases h with
  | failed message => rfl
  | unreadable hBody => rw [payload?, hBody, Option.bind_none]
  | noObject hBody hValue =>
      rw [payload?, hBody, Option.bind_some]
      refine Client.envelopeData?_eq_none fun members hData => ?_
      unfold Json.field at hData
      split at hData
      next others => exact hValue others rfl
      next => cases hData
  | noData hBody hData => rw [payload?, hBody, Option.bind_some, Client.envelopeData?_eq_none hData]

namespace Dispatcher

/-- What a dispatch under a tag will say: one whose tag names no mode fails. -/
def forecastTag (dispatcher : Dispatcher) (outside : Outside) (counts : Counts) (query tag : String) :
    Except Escape Outcome :=
  match Mode.parse tag with
  | .error refusal => .ok (.failure refusal.message)
  | .ok mode => dispatcher.forecast outside counts query mode

/-- A dispatch takes the next number and says what was forecast for its tag. -/
theorem run_spec (dispatcher : Dispatcher) (query tag : String) (outside : Outside) (trace : Trace) :
    ∃ ticket : Ticket, ticket.sequence = dispatcher.issued + 1 ∧
      Says ticket (dispatcher.forecastTag outside trace.counts query tag)
        ((dispatcher.run query tag).perform outside trace).1.2 := by
  simp only [run, Act.perform_bind]
  unfold forecastTag
  cases hMode : Mode.parse tag with
  | error refusal =>
      simp only [start, hMode, Act.perform_bind, Act.perform_pure]
      obtain ⟨hSays, _⟩ := conclude_says outside (Act.now.perform outside trace).2
        ⟨query, none, dispatcher.issued + 1, (Act.now.perform outside trace).1⟩ (.failure refusal.message)
      exact ⟨_, rfl, hSays⟩
  | ok mode =>
      have hStart : dispatcher.start query tag = dispatcher.start query mode.tag := by
        unfold start
        rw [hMode, Mode.parse_tag]
      obtain ⟨_, hBegun, _⟩ := dispatcher.start_fulfils outside trace query mode
      rw [hStart]
      cases hForm : ((dispatcher.start query mode.tag).perform outside trace).1.2 with
      | waiting flight =>
          rw [hForm] at hBegun
          cases hBegun with
          | waiting hForecast hSequence =>
              obtain ⟨hSays, _⟩ := finish_says outside
                ((dispatcher.start query mode.tag).perform outside trace).2 flight
              rw [hForecast] at hSays
              simp only [Act.perform_bind, Act.perform_pure]
              exact ⟨flight.ticket, hSequence, hSays⟩
      | through result =>
          rw [hForm] at hBegun
          cases hBegun with
          | through ticket hSequence hSays =>
              simp only [Act.perform_pure]
              exact ⟨ticket, hSequence, hSays⟩

/-- What is forecast for a tag comes to an outcome, a failure just with the messages of queries that are
turned down. -/
theorem forecastTag_spec (dispatcher : Dispatcher) {query tag : String} {outside : Outside} (counts : Counts)
    (hRecords : dispatcher.registry.documents.HoldsRecords)
    (hDigits : Mode.normalTag tag = Mode.tag .cache →
      dispatcher.registry.cache.FindsText query Text.maxIntegerDigits)
    (hChance : ∀ n, ∃ x, outside.chance n = .real x)
    (hExchange : Mode.normalTag tag = Mode.tag .sql →
      ∃ request, dispatcher.registry.client.queryRequest query = .ok request ∧
        ∀ cause message, outside.query counts.queryReplies request ≠ .abort cause message) :
    ∃ outcome, dispatcher.forecastTag outside counts query tag = .ok outcome ∧ outcome.HoldsRecord ∧
      ∀ message, outcome = .failure message ↔ dispatcher.registry.TurnsDown query tag message := by
  unfold forecastTag
  cases hMode : Mode.parse tag with
  | error refusal =>
      obtain ⟨hTag, rfl⟩ := Mode.parse_eq_error hMode
      refine ⟨_, rfl, trivial, fun message => ⟨?_, ?_⟩⟩
      · rintro ⟨⟩
        exact .mode hTag
      · intro h
        cases h with
        | mode => rfl
        | record hNamed => exact absurd hNamed (hTag .document)
        | entry hNamed => exact absurd hNamed (hTag .cache)
  | ok mode =>
      have hTag := Mode.parse_eq_ok_iff.mp hMode
      dsimp only
      rw [dispatcher.forecast_cases hChance]
      cases mode with
      | sql =>
          obtain ⟨request, hRequest, hReply⟩ := hExchange hTag
          have hData := (outside.query counts.queryReplies request).outcome_isData
          simp only [hRequest, dispatcher.registry.client.forecast_eq hReply]
          refine ⟨_, rfl, hData.holdsRecord, fun message => ⟨?_, ?_⟩⟩
          · intro hFailure
            rw [hFailure] at hData
            exact hData.elim
          · intro h
            cases h with
            | mode hOther => exact absurd hTag (hOther .sql)
            | record hNamed => exact absurd (hTag.symm.trans hNamed) (by decide)
            | entry hNamed => exact absurd (hTag.symm.trans hNamed) (by decide)
      | document =>
          obtain ⟨outcome, hOutcome, hRecord, hFailure⟩ := DocumentStore.forecast_spec hRecords query
          refine ⟨outcome, hOutcome, hRecord, fun message => (hFailure message).trans ⟨?_, ?_⟩⟩
          · rintro ⟨hDown, rfl⟩
            exact .record hTag hDown
          · intro h
            cases h with
            | mode hOther => exact absurd hTag (hOther .document)
            | record _ hDown => exact ⟨hDown, rfl⟩
            | entry hNamed => exact absurd (hTag.symm.trans hNamed) (by decide)
      | cache =>
          obtain ⟨outcome, hOutcome, hRecord, hFailure⟩ := CacheStore.forecast_spec (hDigits hTag)
          refine ⟨outcome, hOutcome, hRecord, fun message => (hFailure message).trans ⟨?_, ?_⟩⟩
          · rintro ⟨hDown, rfl⟩
            exact .entry hTag hDown
          · intro h
            cases h with
            | mode hOther => exact absurd hTag (hOther .cache)
            | record hNamed => exact absurd (hTag.symm.trans hNamed) (by decide)
            | entry _ hDown => exact ⟨hDown, rfl⟩

/-- In SQL mode the payload of the reply decides. -/
theorem forecastTag_sql (dispatcher : Dispatcher) {query tag : String} {outside : Outside} {counts : Counts}
    {request : Request} (hTag : Mode.normalTag tag = Mode.tag .sql)
    (hRequest : dispatcher.registry.client.queryRequest query = .ok request)
    (hReply : ∀ cause message, outside.query counts.queryReplies request ≠ .abort cause message) :
    dispatcher.forecastTag outside counts query tag =
      .ok ((outside.query counts.queryReplies request).payload?.elim Payload.emptyTable Payload.outcome) := by
  have hEngine : dispatcher.registry.engine .sql = .remote dispatcher.registry.client := rfl
  rw [forecastTag, Mode.parse_eq_ok_iff.mpr hTag]
  simp only [forecast, hEngine, hRequest]
  exact dispatcher.registry.client.forecast_eq hReply

/-- An entry that cannot be read ends the dispatch that finds it. -/
theorem run_unreadable (dispatcher : Dispatcher) {query tag text : String} {fault : Json.ReadFault}
    {outside : Outside} (hTag : Mode.normalTag tag = Mode.tag .cache) (hSet : isSet (statement query) = false)
    (hEntry : dispatcher.registry.cache.entries.lookup (statement query) = some text)
    (hRead : Json.read text = .error fault) (hChance : ∀ n, ∃ x, outside.chance n = .real x) (trace : Trace) :
    ((dispatcher.run query tag).perform outside trace).1.2 = .error (.unreadable fault) := by
  have hAnswer : dispatcher.registry.cache.execute query = .error (.unreadable fault) :=
    CacheStore.execute_of_unreadable rfl hSet hEntry hRead
  have hForecast : dispatcher.forecastTag outside trace.counts query tag = .error (.unreadable fault) := by
    rw [forecastTag, Mode.parse_eq_ok_iff.mpr hTag]
    simp only [dispatcher.forecast_cases hChance, Store.forecast, Store.answer, hAnswer]
    rfl
  obtain ⟨ticket, -, finished, hRun⟩ := dispatcher.run_spec query tag outside trace
  rw [hForecast] at hRun
  exact hRun

end Dispatcher
end QueryPlayground
