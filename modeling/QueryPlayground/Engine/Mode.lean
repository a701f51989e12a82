import QueryPlayground.Json.Display
import QueryPlayground.Text.Blank
import QueryPlayground.Text.Lowercase

/-!
The three modes of the playground and the reasons for which an engine turns a query down. Tags are read
without regard to case or surrounding white space.
-/
namespace QueryPlayground

/-- The kind of engine that answers a query. -/
inductive Mode where
  | sql
  | document
  | cache
  deriving DecidableEq, Repr, Inhabited

/-- Why a query is turned down. Its message is shown to the user. -/
inductive Refusal where
  | unknownMode
  | recordMissing
  | entryMissing
  deriving DecidableEq, Repr

def Refusal.message : Refusal → String
  | .unknownMode => "Unknown database type"
  | .recordMissing => "Key not found in NoSQL store"
  | .entryMissing => "Cache key not found"

namespace Mode

def all : List Mode := [.sql, .document, .cache]

def tag : Mode → String
  | .sql => "sql"
  | .document => "nosql"
  | .cache => "cache"

def title : Mode → String
  | .sql => "SQL Query Builder"
  | .document => "NoSQL Document Store"
  | .cache => "Cache Operations"

/-- Whether queries of this mode go to the remote service. -/
def isRemote : Mode → Bool
  | .sql => true
  | _ => false

/-- The form of a tag in which it is compared. -/
def normalTag (s : String) : String := Text.lower (Text.trim s)

def ofTag? (s : String) : Option Mode := all.find? fun mode => mode.tag == normalTag s

/-- The mode that a tag names. -/
def parse (s : String) : Except Refusal Mode := (ofTag? s).elim (.error .unknownMode) .ok

/-- The mode that the display text of a value names. -/
def parseValue (value : Json) : Except Refusal Mode := parse value.display

end Mode
end QueryPlayground
