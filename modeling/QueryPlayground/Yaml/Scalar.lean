import QueryPlayground.Json.Reader
import QueryPlayground.Yaml.Cursor

/-!
The texts of scalars: plain, quoted, and in blocks. Lines are folded while they are read: a single line
break becomes a space, and of several all but the first are kept. Texts are gathered in pieces, the last
piece first.
-/
namespace QueryPlayground.Yaml

open Reading

/-- The text of pieces that were gathered. -/
def gathered (pieces : List (List Char)) : List Char := pieces.reverse.flatten

/-- The line breaks that stand next, each after any blanks; a document separator is refused. -/
def quotedBreaks : Nat → List (List Char) → Reading (List Char)
  | 0, pieces => return gathered pieces
  | fuel + 1, pieces => do
    if ← atSeparator then refuse
    skipAll isBlank
    if isBreak (← peek) then quotedBreaks fuel ((← takeBreak) :: pieces) else return gathered pieces

/-- What a line break and the breaks after it fold to. -/
def folded (lineBreak breaks : List Char) : List Char :=
  if lineBreak ≠ ['\n'] then lineBreak ++ breaks
  else if breaks.isEmpty then [' ']
  else breaks

/-- The blanks inside a quoted text, or what the line breaks there fold to. -/
def quotedSpaces : Reading (List Char) := do
  let blanks ← takeAll isBlank
  let c ← peek
  if c == endMark then refuse
  else if isBreak c then
    let lineBreak ← takeBreak
    return folded lineBreak (← quotedBreaks (← bound) [])
  else return blanks

/-- The character that a one-letter escape stands for. -/
def escapedChar? (c : Char) : Option Char :=
  [('0', '\x00'), ('a', '\x07'), ('b', '\x08'), ('t', '\t'), ('\t', '\t'), ('n', '\n'), ('v', '\x0b'),
   ('f', '\x0c'), ('r', '\r'), ('e', '\x1b'), (' ', ' '), ('"', '"'), ('\\', '\\'), ('/', '/'),
   ('N', '\x85'), ('_', '\xa0'), ('L', '\u2028'), ('P', '\u2029')].lookup c

/-- The number of hexadecimal digits after the letter of an escape. -/
def codeLength? (c : Char) : Option Nat := [('x', 2), ('u', 4), ('U', 8)].lookup c

/-- The character of a code; a surrogate has none and is replaced. -/
def charOfCode (code : Nat) : Except Fault Char :=
  if 0x7fffffff < code then .error (.value .characterTooLarge)
  else if 0x110000 ≤ code then .error (.value .character)
  else if 0xd800 ≤ code ∧ code < 0xe000 then .ok '\ufffd'
  else .ok (Char.ofNat code)

/-- The number that the next `count` hexadecimal digits denote, added to those at `place` and before. -/
def hexNumber (place value : Nat) : Nat → Reading Nat
  | 0 => return value
  | count + 1 => do
    match Text.hexValue? (← peekAt place) with
    | none => refuse
    | some digit => hexNumber (place + 1) (16 * value + digit) count

/-- What an escape stands for; the cursor is behind the backslash. -/
def escape : Reading (List Char) := do
  let c ← peek
  match escapedChar? c, codeLength? c with
  | some e, _ =>
    skip 1
    return [e]
  | none, some size =>
    skip 1
    let e ← charOfCode (← hexNumber 0 0 size)
    skip size
    return [e]
  | none, none =>
    if isBreak c then
      let _ ← takeBreak
      quotedBreaks (← bound) []
    else refuse

/-- The characters of a quoted scalar that need no care. -/
def isQuotedPlain (c : Char) : Bool := !(c == '\'' || c == '"' || c == '\\' || isGapOrEnd c)

/-- The text of a quoted scalar up to its closing mark. -/
def quotedText (double : Bool) : Nat → List (List Char) → Reading (List Char)
  | 0, _ => refuse
  | fuel + 1, pieces => do
    let pieces := (← takeAll isQuotedPlain) :: pieces
    let c ← peek
    if !double && c == '\'' then
      if (← peekAt 1) == '\'' then
        skip 2
        quotedText double fuel (['\''] :: pieces)
      else
        skip 1
        return gathered pieces
    else if double && c == '"' then
      skip 1
      return gathered pieces
    else if double && c == '\\' then
      skip 1
      quotedText double fuel ((← escape) :: pieces)
    else if c == '\'' || c == '"' || c == '\\' then
      skip 1
      quotedText double fuel ([c] :: pieces)
    else quotedText double fuel ((← quotedSpaces) :: pieces)

/-- A quoted scalar; the cursor is at its opening mark. -/
def quotedScalar (double : Bool) : Reading (List Char) := do
  skip 1
  quotedText double (2 * (← bound)) []

/-- The indicators of flow collections. -/
def isFlowIndicator (c : Char) : Bool :=
  c == ',' || c == '[' || c == ']' || c == '\x7b' || c == '\x7d'

/-- Whether a plain scalar ends before `c`, which `following` follows. -/
def endsPlain (inFlow : Bool) (c following : Char) : Bool :=
  isGapOrEnd c ||
  (c == ':' && (isGapOrEnd following || (inFlow && isFlowIndicator following))) ||
  (inFlow && (isFlowIndicator c || c == '?'))

/-- How far a plain scalar reaches without a blank, added to `n`. -/
def plainReach (inFlow : Bool) (n : Nat) : List Char → Nat
  | [] => n
  | c :: rest => if endsPlain inFlow c (rest.headD endMark) then n else plainReach inFlow (n + 1) rest

/-- The part of a plain scalar up to the next blank. A colon is asked what follows it. -/
def plainPart (inFlow : Bool) : Reading (List Char) := do
  let rest := (← get).rest
  let reach := plainReach inFlow 0 rest
  ask (if (← peekAt reach) == ':' then reach + 2 else reach + 1)
  if reach ≠ 0 then skip reach
  return rest.take reach

/-- The line breaks after the first one behind a plain scalar. Nothing is returned when a document
separator follows. -/
def plainBreaks : Nat → List (List Char) → Reading (Option (List Char))
  | 0, pieces => return some (gathered pieces)
  | fuel + 1, pieces => do
    let c ← peek
    if c == ' ' then
      skip 1
      plainBreaks fuel pieces
    else if isBreak c then
      let lineBreak ← takeBreak
      if ← atSeparator then return none else plainBreaks fuel (lineBreak :: pieces)
    else return some (gathered pieces)

/-- What stands between two parts of a plain scalar, and whether there is a line break in it. Nothing
means that the scalar ends. -/
def plainSpaces : Reading (List Char × Bool) := do
  let blanks ← takeAll (· == ' ')
  if isBreak (← peek) then
    let lineBreak ← takeBreak
    if ← atSeparator then return ([], true)
    match ← plainBreaks (← bound) [] with
    | none => return ([], true)
    | some breaks => return (folded lineBreak breaks, true)
  else return (blanks, false)

/-- Reads a plain scalar; the flag tells whether the last thing read was a line break. Outside flow
collections every line must start at `indent` or further. -/
def plainText (inFlow : Bool) (indent : Int) :
    Nat → List (List Char) → List Char → Bool → Reading (List Char × Bool)
  | 0, pieces, _, atBreak => return (gathered pieces, atBreak)
  | fuel + 1, pieces, spaces, atBreak => do
    if (← peek) == '#' then return (gathered pieces, atBreak)
    let part ← plainPart inFlow
    if part.isEmpty then return (gathered pieces, atBreak)
    let pieces := part :: spaces :: pieces
    let (spaces, atBreak) ← plainSpaces
    if spaces.isEmpty then return (gathered pieces, atBreak)
    if (← peek) == '#' || (!inFlow && ((← column) : Int) < indent) then
      return (gathered pieces, atBreak)
    plainText inFlow indent fuel pieces spaces atBreak

def plainScalar (inFlow : Bool) (indent : Int) : Reading (List Char × Bool) := do
  plainText inFlow indent (← bound) [] [] false

/-- What happens to the line breaks at the end of a block. -/
inductive Chomping where
  | strip
  | clip
  | keep
  deriving DecidableEq, Repr

/-- Takes the chomping that an indicator asks for, if one stands next. -/
def takeChomping? : Reading (Option Chomping) := do
  match ← peek with
  | '+' => skip 1; return some .keep
  | '-' => skip 1; return some .strip
  | _ => return none

/-- Takes the indentation that an indicator asks for, if one stands next; zero is refused. -/
def takeIncrement? : Reading (Option Nat) := do
  let c ← peek
  if c = '0' then refuse
  else if '1' ≤ c ∧ c ≤ '9' then
    skip 1
    return some (c.toNat - 48)
  else return none

/-- The indicators after the mark of a block, in either order. -/
def blockIndicators : Reading (Chomping × Option Nat) := do
  let (chomping, increment) ← match ← takeChomping? with
    | some chomping => do pure (some chomping, ← takeIncrement?)
    | none => do
      match ← takeIncrement? with
      | some n => do pure (← takeChomping?, some n)
      | none => pure (none, none)
  expect isSpaceOrEnd
  return (chomping.getD .clip, increment)

/-- The blank lines at the front of a block, and the greatest column reached in them. -/
def blockFront : Nat → List (List Char) → Nat → Reading (List Char × Nat)
  | 0, pieces, width => return (gathered pieces, width)
  | fuel + 1, pieces, width => do
    let c ← peek
    if c == ' ' then
      skip 1
      blockFront fuel pieces (max width (← column))
    else if isBreak c then blockFront fuel ((← takeBreak) :: pieces) width
    else return (gathered pieces, width)

/-- Skips spaces up to a column. -/
def skipIndent (indent : Nat) : Nat → Reading Unit
  | 0 => return ()
  | fuel + 1 => do
    if (← column) < indent then
      if (← peek) == ' ' then
        skip 1
        skipIndent indent fuel

/-- The blank lines that stand next in a block of a known indentation. -/
def blockBreaks (indent : Nat) : Nat → List (List Char) → Reading (List Char)
  | 0, pieces => return gathered pieces
  | fuel + 1, pieces => do
    skipIndent indent indent
    if isBreak (← peek) then blockBreaks indent fuel ((← takeBreak) :: pieces)
    else return gathered pieces

/-- Whether a line of a block of a known indentation stands next. -/
def atBlockLine (indent : Nat) : Reading Bool := do
  if (← column) = indent then return (← peek) != endMark else return false

/-- The lines of a block. `breaks` holds the blank lines in front of the next one. The result is the
pieces of the text without its end, the last line break, and the breaks after it. -/
def blockLines (fold : Bool) (indent : Nat) :
    Nat → List (List Char) → List Char → Reading (List (List Char) × List Char × List Char)
  | 0, pieces, breaks => return (pieces, [], breaks)
  | fuel + 1, pieces, breaks => do
    let solid := !isBlank (← peek)
    let line ← takeAll fun c => !isBreak c
    let pieces := line :: breaks :: pieces
    let lineBreak ← takeBreak
    let breaks ← blockBreaks indent (← bound) []
    if ← atBlockLine indent then
      let joint :=
        if fold && lineBreak == ['\n'] && solid && !isBlank (← peek) then
          (if breaks.isEmpty then [' '] else [])
        else lineBreak
      blockLines fold indent fuel (joint :: pieces) breaks
    else return (pieces, lineBreak, breaks)

/-- A block scalar inside a collection at column `parent`; the cursor is at its mark. -/
def blockScalar (fold : Bool) (parent : Int) : Reading (List Char) := do
  skip 1
  let (chomping, increment) ← blockIndicators
  skipLineEnd
  let least := (max 1 (parent + 1)).toNat
  let (front, indent) ← match increment with
    | some n => do pure (← blockBreaks (least + n - 1) (← bound) [], least + n - 1)
    | none => do
      let (front, width) ← blockFront (← bound) [] 0
      pure (front, max least width)
  let (pieces, lineBreak, breaks) ←
    if ← atBlockLine indent then blockLines fold indent (← bound) [] front else pure ([], [], front)
  return gathered (match chomping with
    | .strip => pieces
    | .clip => lineBreak :: pieces
    | .keep => breaks :: lineBreak :: pieces)

end QueryPlayground.Yaml
