/-!
Line breaks. A carriage return, alone or in front of a line feed, breaks a line as a line feed does.
-/
namespace QueryPlayground.Text

/-- A text with line feeds as its only line breaks. -/
def unifyBreaks : List Char → List Char
  | [] => []
  | '\r' :: '\n' :: rest => '\n' :: unifyBreaks rest
  | c :: rest => (if c = '\r' then '\n' else c) :: unifyBreaks rest

end QueryPlayground.Text
