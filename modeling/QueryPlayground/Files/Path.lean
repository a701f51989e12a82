import QueryPlayground.Text.Split

/-!
Paths of files. Repeated slashes, slashes at the end and single dots do not count; double dots are kept.
-/
namespace QueryPlayground

/-- A path: the slashes in front, of which there are at most two, and the names between the others. -/
structure Path where
  slashes : Nat
  names : List (List Char)
  deriving DecidableEq, Repr

namespace Path

/-- The names in a text. -/
def namesIn (s : List Char) : List (List Char) :=
  (Text.pieces '/' s).filter fun name => name ≠ [] ∧ name ≠ ['.']

/-- The path that a text denotes. Exactly two slashes in front are kept, more are one. -/
def ofText (s : String) : Path :=
  let slashes := (s.toList.takeWhile (· == '/')).length
  ⟨if slashes ≤ 2 then slashes else 1, namesIn s.toList⟩

/-- The text of a path; an empty path is written as a dot. -/
def text (path : Path) : String :=
  if path.slashes = 0 ∧ path.names = [] then "."
  else String.ofList (List.replicate path.slashes '/' ++ Text.joined '/' path.names)

/-- The path of a file in a directory. -/
def child (path : Path) (name : String) : Path := { path with names := path.names ++ [name.toList] }

end Path
end QueryPlayground
