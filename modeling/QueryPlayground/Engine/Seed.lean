import QueryPlayground.Engine.Store
import QueryPlayground.Json.Writer
import QueryPlayground.Text.IntegerText

/-!
What the local engines hold when a session starts.
-/
namespace QueryPlayground

/-- A user in the seed of the document store. -/
structure SeedUser where
  name : String
  age : Int
  interests : List String
  achievements : List String
  friends : List String
  posts : Int
  likes : Int

private def textList (items : List String) : Json := .arr (items.map .str)

def SeedUser.toJson (user : SeedUser) : Json :=
  .obj [
    ("name", .str user.name),
    ("age", .int user.age),
    ("profile", .obj [
      ("interests", textList user.interests),
      ("achievements", textList user.achievements),
      ("social", .obj [
        ("friends", textList user.friends),
        ("posts", .int user.posts),
        ("likes", .int user.likes)])])]

def DocumentStore.seed : DocumentStore where
  records := [
    ("user:1", SeedUser.toJson {
      name := "Alice Johnson", age := 16
      interests := ["coding", "gaming", "music"]
      achievements := ["First Hackathon", "Code Challenge Winner"]
      friends := ["user:2", "user:3"], posts := 15, likes := 127 }),
    ("user:2", SeedUser.toJson {
      name := "Bob Smith", age := 15
      interests := ["sports", "coding", "movies"]
      achievements := ["Team Captain", "Honor Roll"]
      friends := ["user:1", "user:4"], posts := 8, likes := 64 })]

/-- The cache seed with its time stamp; the values are held as texts. -/
def CacheStore.seed (stamp : Json) : CacheStore where
  entries := [
    ("session:user1", Json.write .spaced
      (.obj [("userId", .int 1), ("loginTime", stamp), ("lastActivity", stamp)])),
    ("recent:posts", Json.write .spaced (textList ["post1", "post2", "post3"])),
    ("popular:games", Json.write .spaced (textList ["Minecraft", "Roblox", "Fortnite"]))]

/-- Why a time gives no stamp. -/
inductive StampFault where
  | undefinedTime
  | infiniteTime
  | tooLong
  deriving DecidableEq, Repr

def StampFault.message : StampFault → String
  | .undefinedTime => "cannot convert float NaN to integer"
  | .infiniteTime => "cannot convert float infinity to integer"
  | .tooLong => Text.integerLimitMessage none

/-- Whole milliseconds of a time in seconds. -/
def stampOfSeconds (now : Binary64) : Except StampFault Int :=
  let ms := now * Binary64.ofInt 1000
  match ms.truncate? with
  | some n => .ok n
  | none => .error (if ms.isNaN then .undefinedTime else .infiniteTime)

/-- The stamp of a time that may be a whole number of seconds; it must have a decimal text. -/
def stampOf : Json → Except StampFault Int
  | .float now => stampOfSeconds now
  | .int n => if Text.isWritable (n * 1000) then .ok (n * 1000) else .error .tooLong
  | _ => .ok 0

end QueryPlayground
