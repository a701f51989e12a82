/-!
Splitting a line into words as shells do: white space separates words unless it is quoted, and a backslash
quotes the next character. A line that ends inside quotes gives its last word as far as it goes.
-/
namespace QueryPlayground.Text

/-- Where a place in a line is: between words, in a word, in quotes, or behind a backslash, which may stand
in quotes. -/
inductive LinePart where
  | gap
  | word
  | quotes (mark : Char)
  | escape (inQuotes : Bool)
  deriving DecidableEq, Repr

/-- The words so far and the present one, all from the end, and whether the present one has been quoted. -/
structure WordsRead where
  done : List (List Char)
  present : List Char
  isQuoted : Bool

namespace WordsRead

def add (read : WordsRead) (c : Char) : WordsRead := { read with present := c :: read.present }

/-- Ends the present word, unless there is none. A word may be empty only if it is quoted. -/
def close (read : WordsRead) : WordsRead :=
  if read.present.isEmpty && !read.isQuoted then read
  else ⟨read.present.reverse :: read.done, [], false⟩

end WordsRead

def isShellGap (c : Char) : Bool := c == ' ' || c == '\t' || c == '\r' || c == '\n'

/-- Reads a character outside quotes. -/
def readPlain (read : WordsRead) (c : Char) : WordsRead × LinePart :=
  if isShellGap c then (read.close, .gap)
  else if c = '\\' then (read, .escape false)
  else if c = '\'' ∨ c = '"' then ({ read with isQuoted := true }, .quotes c)
  else (read.add c, .word)

/-- Reads the next character of a line. In quotes, a backslash quotes only quotation marks and itself. -/
def readNext (state : WordsRead × LinePart) (c : Char) : WordsRead × LinePart :=
  let (read, part) := state
  match part with
  | .gap => readPlain read c
  | .word => readPlain read c
  | .quotes mark =>
    if c = mark then (read, .word)
    else if c = '\\' ∧ mark = '"' then (read, .escape true)
    else (read.add c, part)
  | .escape false => (read.add c, .word)
  | .escape true => ((if c = '\\' ∨ c = '"' then read else read.add '\\').add c, .quotes '"')

def shellWords (line : String) : List String :=
  let (read, part) := line.toList.foldl readNext (⟨[], [], false⟩, .gap)
  let read := match part with
    | .gap => read.close
    | .word => read.close
    | _ => { read with isQuoted := true }.close
  read.done.reverse.map String.ofList

end QueryPlayground.Text
