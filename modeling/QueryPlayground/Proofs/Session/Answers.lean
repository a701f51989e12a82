import QueryPlayground.Proofs.Json.Acceptance
import QueryPlayground.Proofs.Lookup
import QueryPlayground.Proofs.Page.Regions
import QueryPlayground.Proofs.Session.Forecast

/-! Answers that can be shown. A document store of objects and a cache of JSON texts answer every query,
and the service's reply always gives an outcome, so that no query fails for what it finds. The stores of
a fresh playground are of this kind: every forecast there has a page. -/
namespace QueryPlayground

open Service

/-- A forecast that comes to an outcome with a page. -/
def Renders (forecast : Except Escape Outcome) : Prop :=
  ∃ outcome regions, forecast = .ok outcome ∧ Page.regions outcome = .ok regions

/-- An outside in which chance gives doubles, and every query that is sent ends in a response or in a
failure of the transport. -/
structure Outside.Answers (outside : Outside) : Prop where
  chance : ∀ n, ∃ x, outside.chance n = .real x
  replies : ∀ n request cause message, outside.query n request ≠ .abort cause message

/-! ### Stores -/

/-- A document store whose records are all objects. -/
def DocumentStore.HoldsRecords (store : DocumentStore) : Prop :=
  ∀ entry ∈ store.records, ∃ members, entry.2 = .obj members

/-- A cache whose entries are all JSON texts, with integers of at most `limit` digits. -/
def CacheStore.HoldsTexts (store : CacheStore) (limit : Nat) : Prop :=
  ∀ entry ∈ store.entries, Json.IsText limit entry.2

/-- What a query finds in a cache, if it finds anything, is a JSON text with integers of at most `limit`
digits. -/
def CacheStore.FindsText (store : CacheStore) (query : String) (limit : Nat) : Prop :=
  ∀ text, store.entries.lookup (statement query) = some text → Json.IsText limit text

theorem CacheStore.HoldsTexts.findsText {store : CacheStore} {limit : Nat} (h : store.HoldsTexts limit)
    (query : String) : store.FindsText query limit :=
  fun _ hEntry => h _ (mem_of_lookup hEntry)

/-- An entry that cannot be read is no answer. -/
theorem CacheStore.execute_of_unreadable {store : CacheStore} {query key text : String} {fault : Json.ReadFault}
    (hQuery : statement query = key) (hSet : isSet key = false) (hEntry : store.entries.lookup key = some text)
    (hRead : Json.read text = .error fault) : store.execute query = .error (.unreadable fault) := by
  simp [execute, hQuery, hSet, hEntry, hRead, Except.map, Except.mapError]

/-- The queries that a document store turns down: they store nothing, do not ask for all keys, and are no
key themselves. -/
def DocumentStore.TurnsDown (store : DocumentStore) (query : String) : Prop :=
  isSet (statement query) = false ∧ statement query ≠ listAll ∧ statement query ∉ store.keys

/-- The queries that a cache turns down: they store nothing and are no key. -/
def CacheStore.TurnsDown (store : CacheStore) (query : String) : Prop :=
  isSet (statement query) = false ∧ statement query ∉ store.keys

/-- The document store always gives an outcome, a failure just if it turns the query down. -/
theorem DocumentStore.forecast_spec {store : DocumentStore} (h : store.HoldsRecords) (query : String) :
    ∃ outcome, (Store.documents store).forecast query = .ok outcome ∧ outcome.HoldsRecord ∧
      ∀ message, outcome = .failure message ↔
        store.TurnsDown query ∧ message = Refusal.message .recordMissing := by
  simp only [Store.forecast, Store.answer, execute, TurnsDown]
  cases hSet : isSet (statement query) with
  | true => exact ⟨_, rfl, trivial, by simp⟩
  | false =>
      by_cases hAll : statement query = listAll
      · rw [if_neg Bool.false_ne_true, if_pos hAll]
        exact ⟨_, rfl, trivial, by simp [hAll]⟩
      · rw [if_neg Bool.false_ne_true, if_neg hAll]
        cases hRecord : store.records.lookup (statement query) with
        | none =>
            refine ⟨_, rfl, trivial, fun message => ?_⟩
            have hKey : statement query ∉ store.keys := notMem_keys_of_lookup hRecord
            simp [hAll, hKey, eq_comm]
        | some data =>
            have hKey : statement query ∈ store.keys := mem_keys_of_lookup hRecord
            exact ⟨.document data, rfl, h _ (mem_of_lookup hRecord), by simp [hKey]⟩

/-- So does a cache where the query finds a JSON text whose integers are not too long to be read. -/
theorem CacheStore.forecast_spec {store : CacheStore} {query : String}
    (h : store.FindsText query Text.maxIntegerDigits) :
    ∃ outcome, (Store.cache store).forecast query = .ok outcome ∧ outcome.HoldsRecord ∧
      ∀ message, outcome = .failure message ↔
        store.TurnsDown query ∧ message = Refusal.message .entryMissing := by
  simp only [Store.forecast, Store.answer, execute, TurnsDown]
  cases hSet : isSet (statement query) with
  | true => exact ⟨_, rfl, trivial, by simp⟩
  | false =>
      rw [if_neg Bool.false_ne_true]
      cases hEntry : store.entries.lookup (statement query) with
      | none =>
          refine ⟨_, rfl, trivial, fun message => ?_⟩
          have hKey : statement query ∉ store.keys := notMem_keys_of_lookup hEntry
          simp [hKey, eq_comm]
      | some text =>
          obtain ⟨v, hRead⟩ := (Json.read_iff text).mpr (h _ hEntry)
          have hKey : statement query ∈ store.keys := mem_keys_of_lookup hEntry
          simp only [hRead]
          exact ⟨.cacheHit v, rfl, trivial, by simp [hKey]⟩

theorem DocumentStore.seed_holdsRecords : DocumentStore.seed.HoldsRecords := by
  intro entry hEntry
  simp only [DocumentStore.seed, List.mem_cons, List.not_mem_nil, or_false] at hEntry
  rcases hEntry with rfl | rfl <;> exact ⟨_, rfl⟩

/-- Each entry of the seed is the text of a storable value, the stamp included. -/
theorem CacheStore.seed_holdsTexts {stamp : Int} (hStamp : Text.isWritable stamp = true) :
    (CacheStore.seed (.int stamp)).HoldsTexts Text.maxIntegerDigits := by
  have hTexts (items : List String) : Json.Storable (.arr (items.map .str)) := by
    refine .arr ?_
    intro item hItem
    obtain ⟨text, _, rfl⟩ := List.mem_map.mp hItem
    exact .str text
  have hSession : Json.Storable
      (.obj [("userId", .int 1), ("loginTime", .int stamp), ("lastActivity", .int stamp)]) := by
    refine .obj (by simp) ?_
    simp only [List.forall_mem_cons]
    exact ⟨.int (Json.isWritable_of_lt (by decide)), .int hStamp, .int hStamp, by simp⟩
  intro entry hEntry
  simp only [CacheStore.seed, List.mem_cons, List.not_mem_nil, or_false] at hEntry
  rcases hEntry with rfl | rfl | rfl
  · exact hSession.write_isText Json.Style.spaced_isReadable
  · exact (hTexts ["post1", "post2", "post3"]).write_isText Json.Style.spaced_isReadable
  · exact (hTexts ["Minecraft", "Roblox", "Fortnite"]).write_isText Json.Style.spaced_isReadable

/-! ### Replies -/

/-- The payload in a reply: the object under `data` in the object that is its body. -/
def Service.Reply.payload? : Reply → Option Json
  | .response _ body => (bodyValue? body).bind Client.envelopeData?
  | _ => none

/-- A table or a scalar, which is all that a payload can give. -/
def Outcome.IsData : Outcome → Prop
  | .table .. => True
  | .scalar .. => True
  | _ => False

theorem Outcome.IsData.holdsRecord {outcome : Outcome} (h : outcome.IsData) : outcome.HoldsRecord := by
  cases outcome with
  | document data => exact h.elim
  | _ => trivial

theorem Payload.outcome_isData (payload : Json) : (Payload.outcome payload).IsData := by
  unfold Payload.outcome
  dsimp only
  split <;> trivial

/-- A query can be sent once the address of its endpoint is good. -/
theorem Service.Client.exists_queryRequest {client : Client} {address : String}
    (h : Address.normalize (client.url client.queryPath) = .ok address) (query : String) :
    ∃ request, client.queryRequest query = .ok request := by
  unfold queryRequest request
  rw [h]
  exact ⟨_, rfl⟩

/-- A reply that is no abort always gives an outcome: that of its payload, or the empty table. -/
theorem Service.Client.forecast_eq (client : Client) {reply : Reply}
    (hReply : ∀ cause message, reply ≠ .abort cause message) :
    client.forecast reply = .ok (reply.payload?.elim Payload.emptyTable Payload.outcome) := by
  cases reply with
  | failure message => rfl
  | abort cause message => exact absurd rfl (hReply cause message)
  | response status body =>
      simp only [Client.forecast, readOutcome, readPayload, replyValue, Reply.payload?]
      cases bodyValue? body with
      | none => rfl
      | some value =>
          simp only [Option.bind_some, Except.map]
          cases envelopeData? value <;> rfl

theorem Service.Reply.outcome_isData (reply : Reply) :
    (reply.payload?.elim Payload.emptyTable Payload.outcome).IsData := by
  cases reply.payload? with
  | none => trivial
  | some payload => exact Payload.outcome_isData payload

/-! ### Every forecast has a page -/

theorem Outcome.HoldsRecord.renders {outcome : Outcome} (h : outcome.HoldsRecord) : Renders (.ok outcome) := by
  obtain ⟨page, hPage⟩ := Page.exists_regions_of_holdsRecord h
  exact ⟨outcome, page, rfl, hPage⟩

/-- What the engine of a mode will say once chance and the service give what they should. -/
theorem Dispatcher.forecast_cases (dispatcher : Dispatcher) {outside : Outside} {query : String} {mode : Mode}
    {counts : Counts} (hChance : ∀ n, ∃ x, outside.chance n = .real x) :
    dispatcher.forecast outside counts query mode =
      match mode with
      | .sql =>
        match dispatcher.registry.client.queryRequest query with
        | .error fault => .error (.aborted fault)
        | .ok request => dispatcher.registry.client.forecast (outside.query counts.queryReplies request)
      | .document => (Store.documents dispatcher.registry.documents).forecast query
      | .cache => (Store.cache dispatcher.registry.cache).forecast query := by
  obtain ⟨x, hChance⟩ := hChance counts.draws
  unfold forecast
  rw [hChance]
  cases mode with
  | sql => rfl
  | document => exact ite_self _
  | cache => exact ite_self _

/-- Whatever is asked of a fresh playground's engines can be shown. -/
theorem Dispatcher.forecast_renders {dispatcher : Dispatcher} {client : Client} {stamp : Int}
    {outside : Outside} (hRegistry : dispatcher.registry = .seeded client stamp)
    (hStamp : Text.isWritable stamp = true)
    (hAddress : ∃ address, Address.normalize (client.url client.queryPath) = .ok address)
    (hOutside : outside.Answers) (counts : Counts) (query : String) (mode : Mode) :
    Renders (dispatcher.forecast outside counts query mode) := by
  obtain ⟨address, hAddress⟩ := hAddress
  rw [dispatcher.forecast_cases hOutside.chance, hRegistry]
  cases mode with
  | sql =>
      obtain ⟨request, hRequest⟩ := Client.exists_queryRequest hAddress query
      simp only [Registry.seeded, hRequest, client.forecast_eq (hOutside.replies _ _)]
      exact (Reply.outcome_isData _).holdsRecord.renders
  | document =>
      obtain ⟨outcome, hOutcome, hRecord, _⟩ := DocumentStore.forecast_spec DocumentStore.seed_holdsRecords query
      simp only [Registry.seeded, hOutcome]
      exact hRecord.renders
  | cache =>
      obtain ⟨outcome, hOutcome, hRecord, _⟩ :=
        CacheStore.forecast_spec ((CacheStore.seed_holdsTexts hStamp).findsText query)
      simp only [Registry.seeded, hOutcome]
      exact hRecord.renders

end QueryPlayground
