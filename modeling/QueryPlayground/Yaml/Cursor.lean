import QueryPlayground.Yaml.Source

/-!
Reading a source character by character. A cursor holds what is still to be read and knows its line and
column. Beyond the end of the text it shows the character with code zero, which no text holds. Whatever
looks at characters asks for them first, and it fails where the source does.
-/
namespace QueryPlayground.Yaml

/-- A place in a source. `breaksOff` tells whether the source does, and `bound` is the length of the whole
text; no loop over characters takes more steps. -/
structure Cursor where
  rest : List Char
  breaksOff : Bool
  bound : Nat
  index : Nat
  line : Nat
  column : Nat
  deriving Repr

/-- The character shown beyond the end. -/
def endMark : Char := '\x00'

/-- Line breaks. -/
def isBreak (c : Char) : Bool :=
  c == '\n' || c == '\r' || c == '\x85' || c == '\u2028' || c == '\u2029'

def isBreakOrEnd (c : Char) : Bool := c == endMark || isBreak c

/-- What may follow an indicator: a blank, a line break, or the end. -/
def isGapOrEnd (c : Char) : Bool := c == ' ' || c == '\t' || isBreakOrEnd c

def isSpaceOrEnd (c : Char) : Bool := c == ' ' || isBreakOrEnd c

def isBlank (c : Char) : Bool := c == ' ' || c == '\t'

namespace Cursor

def ofSource (source : Source) : Cursor :=
  ⟨source.text, source.ending.isSome, source.text.length, 0, 0, 0⟩

/-- Goes on by one character. A line break starts a new line, a byte order mark takes no column. -/
def next (cursor : Cursor) : Cursor :=
  match cursor.rest with
  | [] => cursor
  | c :: rest =>
    if isBreak c && !(c == '\r' && rest.head? == some '\n') then
      { cursor with rest, index := cursor.index + 1, line := cursor.line + 1, column := 0 }
    else if c == '\ufeff' then { cursor with rest, index := cursor.index + 1 }
    else { cursor with rest, index := cursor.index + 1, column := cursor.column + 1 }

/-- Goes on by some characters. -/
def advance (cursor : Cursor) : Nat → Cursor
  | 0 => cursor
  | n + 1 => cursor.next.advance n

end Cursor

/-- Something that reads from a place on. -/
abbrev Reading := StateT Cursor (Except Fault)

namespace Reading

def refuse {α : Type} : Reading α := throw .malformed

/-- Asks for the next `n` characters. -/
def ask (n : Nat) : Reading Unit := do
  let cursor ← get
  if cursor.breaksOff ∧ n ≠ 0 ∧ (cursor.rest.drop (n - 1)).isEmpty then throw .broken

/-- The character `n` places ahead. -/
def peekAt (n : Nat) : Reading Char := do
  ask (n + 1)
  return (← get).rest.getD n endMark

def peek : Reading Char := peekAt 0

/-- Goes on by some characters; the one behind them must be known too. -/
def skip (n : Nat) : Reading Unit := do
  ask (n + 1)
  modify fun cursor => cursor.advance n

/-- The characters of a class that stand next, and goes on behind them. -/
def takeAll (p : Char → Bool) : Reading (List Char) := do
  let taken := (← get).rest.takeWhile p
  skip taken.length
  return taken

/-- Goes on behind the characters of a class that stand next. -/
def skipAll (p : Char → Bool) : Reading Unit := do
  let _ ← takeAll p

def skipSpaces : Reading Unit := skipAll (· == ' ')

/-- Goes on only if the next character is in a class. -/
def expect (p : Char → Bool) : Reading Unit := do
  unless p (← peek) do refuse

def column : Reading Nat := do return (← get).column

/-- Takes one line break, if one stands next. The two separators are kept, all others become a line
feed. -/
def takeBreak : Reading (List Char) := do
  let c ← peek
  if c == '\r' || c == '\n' || c == '\x85' then
    ask 2
    skip (if c == '\r' && (← get).rest.getD 1 endMark == '\n' then 2 else 1)
    return ['\n']
  else if c == '\u2028' || c == '\u2029' then
    skip 1
    return [c]
  else return []

/-- Whether three copies of a mark stand next, with a gap behind them. -/
def atMarks (mark : Char) : Reading Bool := do
  ask 3
  if (← get).rest.take 3 == [mark, mark, mark] then return isGapOrEnd (← peekAt 3) else return false

/-- Whether a document separator stands next. -/
def atSeparator : Reading Bool := do
  if ← atMarks '-' then return true else atMarks '.'

/-- Goes up to the end of the line if a comment stands next. -/
def skipComment : Reading Unit := do
  if (← peek) == '#' then skipAll fun c => !isBreak c

/-- Skips spaces, a comment if one follows, and the end of the line; anything else is refused. -/
def skipLineEnd : Reading Unit := do
  skipSpaces
  skipComment
  expect isBreakOrEnd
  let _ ← takeBreak

/-- The number of steps that a loop over the characters may take. -/
def bound : Reading Nat := do return (← get).bound + 1

end Reading
end QueryPlayground.Yaml
