import QueryPlayground.Engine.Seed
import QueryPlayground.Service.Client

/-!
The registry of engines: exactly one for each mode. Queries in SQL mode go to the remote service, the
others to the stores.
-/
namespace QueryPlayground

/-- An engine that answers by itself. -/
inductive Store where
  | documents (store : DocumentStore)
  | cache (store : CacheStore)
  deriving Repr, Inhabited

/-- A store's outcome for a query. A refusal is an outcome too. -/
def Store.answer (store : Store) (query : String) : Except Json.ReadFault Outcome :=
  match store with
  | .documents store =>
    match store.execute query with
    | .ok outcome => .ok outcome
    | .error refusal => .ok (.failure refusal.message)
  | .cache store =>
    match store.execute query with
    | .ok outcome => .ok outcome
    | .error (.refused refusal) => .ok (.failure refusal.message)
    | .error (.unreadable fault) => .error fault

inductive Engine where
  | remote (client : Service.Client)
  | stored (store : Store)
  deriving Repr

structure Registry where
  client : Service.Client
  documents : DocumentStore
  cache : CacheStore
  deriving Repr

/-- The modes for which a registry was given no engine. -/
structure MissingEngines where
  modes : List Mode
  deriving DecidableEq, Repr

def MissingEngines.message (fault : MissingEngines) : String :=
  "EngineRegistry is missing engines for: " ++ ", ".intercalate (fault.modes.map Mode.tag)

namespace Registry

/-- The registry of all three engines, or the modes whose engine is missing. -/
def assemble (client : Option Service.Client) (documents : Option DocumentStore)
    (cache : Option CacheStore) : Except MissingEngines Registry :=
  match client, documents, cache with
  | some client, some documents, some cache => .ok ⟨client, documents, cache⟩
  | client, documents, cache =>
    .error ⟨(if client.isNone then [Mode.sql] else []) ++
      (if documents.isNone then [Mode.document] else []) ++ (if cache.isNone then [Mode.cache] else [])⟩

/-- The registry with which a session starts. -/
def seeded (client : Service.Client) (stamp : Int) : Registry :=
  ⟨client, .seed, .seed (.int stamp)⟩

def engine (registry : Registry) : Mode → Engine
  | .sql => .remote registry.client
  | .document => .stored (.documents registry.documents)
  | .cache => .stored (.cache registry.cache)

/-- The engine that a tag names. -/
def find (registry : Registry) (tag : String) : Except Refusal Engine :=
  (Mode.parse tag).map registry.engine

end Registry
end QueryPlayground
