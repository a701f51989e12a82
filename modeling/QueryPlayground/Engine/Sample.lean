import QueryPlayground.Engine.Mode

/-!
Canned queries, as they are offered next to the editor.
-/
namespace QueryPlayground

structure Sample where
  title : String
  query : String
  deriving DecidableEq, Repr, Inhabited

namespace Sample

/-- The samples for the document store. -/
def documents : List Sample :=
  [⟨"Get user profile", "user:1"⟩,
   ⟨"Get another user", "user:2"⟩,
   ⟨"List all keys", "KEYS *"⟩,
   ⟨"Store new data", "SET user:3 \x7b\"name\": \"Charlie\", \"age\": 16\x7d"⟩]

/-- The samples for the cache. -/
def cache : List Sample :=
  [⟨"Get session data", "session:user1"⟩,
   ⟨"Get recent posts", "recent:posts"⟩,
   ⟨"Get popular games", "popular:games"⟩,
   ⟨"Set cache value", "SET temp:data \"Hello Cache!\""⟩]

end Sample
end QueryPlayground
