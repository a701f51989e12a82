import QueryPlayground.Engine.Mode
import QueryPlayground.Engine.Outcome
import QueryPlayground.Json.Reader

/-!
The two local engines. Both look a trimmed statement up among their keys and never change: a statement
that starts with `SET ` is acknowledged and forgotten. The cache holds its values as JSON texts.
-/
namespace QueryPlayground

/-- A statement is the query without the white space around it. -/
def statement (query : String) : String := Text.trim query

/-- Whether a statement asks to store something. -/
def isSet (statement : String) : Bool := ['S', 'E', 'T', ' '].isPrefixOf statement.toList

structure DocumentStore where
  records : List (String × Json)
  deriving Repr, Inhabited

namespace DocumentStore

def keys (store : DocumentStore) : List String := store.records.map Prod.fst

/-- The statement that lists all keys. -/
def listAll : String := "KEYS *"

def execute (store : DocumentStore) (query : String) : Except Refusal Outcome :=
  let s := statement query
  if isSet s then .ok (.success "Data stored successfully (simulated)")
  else if s = listAll then .ok (.keyList store.keys)
  else (store.records.lookup s).elim (.error .recordMissing) fun data => .ok (.document data)

end DocumentStore

structure CacheStore where
  entries : List (String × String)
  deriving Repr, Inhabited

/-- Why the cache gives no outcome: it turns the query down, or the entry is no JSON text. -/
inductive CacheFault where
  | refused (refusal : Refusal)
  | unreadable (fault : Json.ReadFault)
  deriving DecidableEq, Repr

namespace CacheStore

def keys (store : CacheStore) : List String := store.entries.map Prod.fst

def execute (store : CacheStore) (query : String) : Except CacheFault Outcome :=
  let s := statement query
  if isSet s then .ok (.success "Cache value set successfully (simulated)")
  else
    match store.entries.lookup s with
    | none => .error (.refused .entryMissing)
    | some text => ((Json.read text).map .cacheHit).mapError .unreadable

end CacheStore
end QueryPlayground
