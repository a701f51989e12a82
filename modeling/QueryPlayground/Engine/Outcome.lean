import QueryPlayground.Json.Basic

/-!
Outcomes of queries. An engine answers with one of six results; a failure is an outcome as well, since
its message is shown to the user.
-/
namespace QueryPlayground

inductive Outcome where
  | table (columns : List String) (rows : List (List Json)) (time : Json)
  | document (data : Json)
  | cacheHit (data : Json)
  | scalar (value : Json) (message : String)
  | success (message : String)
  | keyList (keys : List String)
  | failure (message : String)
  deriving Repr, Inhabited

namespace Outcome

/-- The word that names the kind of an outcome. -/
def kindWord : Outcome → String
  | .table .. => "table"
  | .document _ => "document"
  | .cacheHit _ => "cache"
  | .scalar .. => "scalar"
  | .success _ => "success"
  | .keyList _ => "list"
  | .failure _ => "error"

def succeeded : Outcome → Bool
  | .failure _ => false
  | _ => true

end Outcome
end QueryPlayground
