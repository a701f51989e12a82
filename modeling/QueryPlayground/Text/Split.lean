/-!
Texts split at every copy of a mark, and pieces put together with a mark between them.
-/
namespace QueryPlayground.Text

/-- The pieces of a text between the copies of a mark; there is always at least one. -/
def pieces (mark : Char) : List Char → List (List Char)
  | [] => [[]]
  | c :: rest =>
    if c = mark then [] :: pieces mark rest
    else
      match pieces mark rest with
      | [] => [[c]]
      | first :: more => (c :: first) :: more

/-- Pieces with a mark between them. -/
def joined (mark : Char) (parts : List (List Char)) : List Char := [mark].intercalate parts

end QueryPlayground.Text
