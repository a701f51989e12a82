import QueryPlayground.Text.Spans

/-!
White space in the wide sense: the blanks of every script, the line and paragraph separators, and the
four information separators of ASCII.
-/
namespace QueryPlayground.Text

def blankSpans : Spans :=
  [(0x09, 0x0d), (0x1c, 0x20), (0x85, 0x85), (0xa0, 0xa0), (0x1680, 0x1680), (0x2000, 0x200a),
   (0x2028, 0x2029), (0x202f, 0x202f), (0x205f, 0x205f), (0x3000, 0x3000)]

def isBlank (c : Char) : Bool := blankSpans.contains c.toNat

/-- The white space that may surround a number: all of it but the ASCII information separators. -/
def isMargin (c : Char) : Bool := isBlank c && !(0x1c ≤ c.toNat && c.toNat ≤ 0x1f)

/-- Drops the characters of a class from both ends. -/
def trimBy (p : Char → Bool) (s : List Char) : List Char :=
  ((s.dropWhile p).reverse.dropWhile p).reverse

/-- Drops the white space from both ends. -/
def trimChars (s : List Char) : List Char := trimBy isBlank s

def trim (s : String) : String := String.ofList (trimChars s.toList)

/-- Drops every copy of a character from the end. -/
def dropTrailing (c : Char) (s : String) : String :=
  String.ofList (s.toList.reverse.dropWhile (· == c)).reverse

end QueryPlayground.Text
