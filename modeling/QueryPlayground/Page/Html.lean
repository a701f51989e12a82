/-!
Fragments of HTML. A fragment is a list of characters, and text enters it only through `escape`, after
which it holds no character that could open a tag or end a quoted attribute.
-/
namespace QueryPlayground

abbrev Html := List Char

instance : Coe String Html := ⟨String.toList⟩

namespace Html

/-- One character of text: the five characters that markup uses become entities. -/
def escapeChar (c : Char) : Html :=
  if c = '&' then "&amp;"
  else if c = '<' then "&lt;"
  else if c = '>' then "&gt;"
  else if c = '"' then "&#34;"
  else if c = '\'' then "&#39;"
  else [c]

def escape (text : List Char) : Html := text.flatMap escapeChar

/-- Puts the fragments on lines of their own. -/
def lines : List Html → Html
  | [] => []
  | [line] => line
  | line :: rest => line ++ '\n' :: lines rest

end Html
end QueryPlayground
