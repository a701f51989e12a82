import QueryPlayground.Text.Blank
import QueryPlayground.Text.CellWidth

/-!
Lines broken between words so that they fit a width in cells. A word that is too wide for any line is cut
off, with an ellipsis where it was cut.
-/
namespace QueryPlayground.Text

/-- A text without the white space at its end. -/
def trimEnd (s : List Char) : List Char := (s.reverse.dropWhile isBlank).reverse

/-- The white space in front of the first word, the word, the white space behind it, and the rest. -/
structure FirstWord where
  margin : List Char
  word : List Char
  gap : List Char
  rest : List Char

def firstWord (s : List Char) : FirstWord :=
  let margin := s.takeWhile isBlank
  let s := s.dropWhile isBlank
  let word := s.takeWhile fun c => !isBlank c
  let s := s.dropWhile fun c => !isBlank c
  ⟨margin, word, s.takeWhile isBlank, s.dropWhile isBlank⟩

/-- The words of a line with the white space around them; what is all white space has none. -/
def words : Nat → List Char → List (List Char)
  | 0, _ => []
  | fuel + 1, s =>
    let first := firstWord s
    if first.word.isEmpty then []
    else (first.margin ++ first.word ++ first.gap) :: words fuel first.rest

/-- Fills lines with words. The present line holds `line` and counts as `used` cells; a word goes to the
next line when it does not fit, white space behind it aside. -/
def fillLines (width used : Nat) (line : List Char) : List (List Char) → List (List Char)
  | [] => [line]
  | word :: rest =>
    if used + cells (trimEnd word) ≤ width then fillLines width (used + cells word) (line ++ word) rest
    else if line.isEmpty then fillLines width (cells word) word rest
    else line :: fillLines width (cells word) word rest

/-- A line broken between its words. -/
def brokenLines (width : Nat) (s : List Char) : List (List Char) :=
  match words (s.length + 1) s with
  | [] => [s]
  | all => fillLines width 0 [] all

/-- Drops as many blanks from the end of a line as it has characters too many. -/
def withoutExcess (width : Nat) (s : List Char) : List Char :=
  s.take (s.length - min (s.length - (trimEnd s).length) (s.length - width))

/-- Searches between two places for a prefix of so many cells. A wide character that would go beyond them
becomes a blank. -/
def cropBetween (total : Nat) (s : List Char) : Nat → Nat → Nat → List Char
  | 0, low, _ => s.take low
  | fuel + 1, low, high =>
    let place := (low + high) / 2
    let front := s.take (place + 1)
    let size := cells front
    if size = total + 1 ∧ (front.getLast?.map charCells) = some 2 then front.dropLast ++ [' ']
    else if size = total then front
    else if total < size then cropBetween total s fuel low place
    else cropBetween total s fuel place high

/-- A prefix of so many cells of a wider text. -/
def cropped (total : Nat) (s : List Char) : List Char := cropBetween total s (s.length + 1) 0 s.length

/-- A line of exactly so many cells. -/
def fitted (width : Nat) (s : List Char) : List Char :=
  if width < cells s then cropped (width - 1) s ++ ['…'] else padded width s

/-- A line as lines of exactly so many cells. -/
def wrapped (width : Nat) (s : List Char) : List (List Char) :=
  (brokenLines width s).map fun line => fitted width (withoutExcess width line)

end QueryPlayground.Text
