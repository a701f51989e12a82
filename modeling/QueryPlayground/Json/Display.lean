import QueryPlayground.Json.Writer

/-!
Display texts of JSON values, for people rather than for machines. A string displays as itself, but
inside an array or an object it is quoted.
-/
namespace QueryPlayground.Json

mutual

/-- A value as part of a larger one. -/
def shownInside : Json → List Char
  | .null => ['N', 'o', 'n', 'e']
  | .bool true => ['T', 'r', 'u', 'e']
  | .bool false => ['F', 'a', 'l', 's', 'e']
  | .int n => writeInt n
  | .float x => x.text
  | .str s => Text.quotedChars s.toList
  | .arr items => '[' :: ([',', ' '].intercalate (shownItems items) ++ [']'])
  | .obj members => '\x7b' :: ([',', ' '].intercalate (shownMembers members) ++ ['\x7d'])

def shownItems : List Json → List (List Char)
  | [] => []
  | x :: xs => shownInside x :: shownItems xs

def shownMembers : List (String × Json) → List (List Char)
  | [] => []
  | (k, v) :: rest =>
    (Text.quotedChars k.toList ++ ':' :: ' ' :: shownInside v) :: shownMembers rest

end

/-- The display text of a value. -/
def display : Json → String
  | .str s => s
  | v => String.ofList (shownInside v)

end QueryPlayground.Json
