import QueryPlayground.Session.Outside
import QueryPlayground.Text.CellWidth
import QueryPlayground.Text.Picture
import QueryPlayground.Text.Split

/-!
What a terminal shows: printed texts without sequences that would colour them, and log lines with pictures
for their names and without control characters and tabs. Debug lines are shown only on request. A text with
surrogates cannot be printed, since they have no encoding.
-/
namespace QueryPlayground.CommandLine

/-- The distance between the stops of tabs. -/
def tabStop : Nat := 8

/-- The text behind a colouring sequence at the front of a text; the escape character has been read. -/
def afterColour? (s : List Char) : Option (List Char) :=
  match s with
  | '[' :: rest =>
    match rest.dropWhile fun c => c == ';' || c == '?' || Char.isDigit c with
    | [] => none
    | c :: rest => if c.isAlpha then some rest else none
  | _ => none

/-- A text without colouring sequences. -/
def withoutColour : Nat → List Char → List Char
  | 0, s => s
  | _, [] => []
  | fuel + 1, c :: rest =>
    if c = '\x1b' then
      match afterColour? rest with
      | some rest => withoutColour fuel rest
      | none => c :: withoutColour fuel rest
    else c :: withoutColour fuel rest

/-- A text as it is printed on a line of its own. -/
def printed (s : List Char) : List Char := withoutColour s.length s ++ ['\n']

/-- The first surrogates in a printed text: their place and their codes. -/
structure SurrogateFault where
  start : Nat
  codes : List Nat
  deriving DecidableEq, Repr

def SurrogateFault.message (fault : SurrogateFault) : String :=
  let place :=
    match fault.codes with
    | [code] => s!"character '\\u{String.ofList (Text.hexDigits 4 code)}' in position {fault.start}"
    | codes => s!"characters in position {fault.start}-{fault.start + codes.length - 1}"
  s!"'utf-8' codec can't encode {place}: surrogates not allowed"

/-- What keeps a text from being printed, given the characters that stand for surrogates. -/
def surrogates? (standIns s : List Char) : Option SurrogateFault :=
  (s.findIdx? standIns.contains).map fun start =>
    ⟨start, ((s.drop start).takeWhile standIns.contains).map fun c => Service.firstSurrogate + standIns.idxOf c⟩

/-- Control characters that would move the cursor or ring the bell. -/
def isControl (c : Char) : Bool :=
  let n := c.toNat
  n == 7 || n == 8 || n == 11 || n == 12 || n == 13

/-- A text with its tabs replaced by spaces, from a cell on. -/
def withoutTabs (cell : Nat) : List Char → List Char
  | [] => []
  | c :: rest =>
    if c = '\t' then
      List.replicate (tabStop - cell % tabStop) ' ' ++ withoutTabs (cell + (tabStop - cell % tabStop)) rest
    else if c = '\n' then c :: withoutTabs 0 rest
    else c :: withoutTabs (cell + Text.charCells c) rest

/-- A text with its pictures and without its control characters. -/
def visible (s : List Char) : List Char := (Text.pictured s).filter fun c => !isControl c

/-- A text as a terminal shows it. -/
def displayed (s : List Char) : List Char := withoutTabs 0 (visible s)

/-- Whether a log line is shown. -/
def isShown (verbose : Bool) (line : LogLine) : Bool := verbose || line.level != .debug

/-- A log line as it is shown. -/
def shownLine (line : LogLine) : List Char := displayed line.message.toList ++ ['\n']

/-- What some effects print with the results. -/
def resultsText (effects : List Effect) : List Char :=
  effects.flatMap fun
    | .print .results text => text
    | _ => []

/-- What some effects print with the diagnostics. -/
def diagnosticsText (verbose : Bool) (effects : List Effect) : List Char :=
  effects.flatMap fun
    | .print .diagnostics text => text
    | .log line => if isShown verbose line then shownLine line else []
    | _ => []

end QueryPlayground.CommandLine

namespace QueryPlayground.Act

/-- Prints a text on a line of its own. -/
def printLine (channel : Channel) (s : List Char) : Act Unit :=
  effect (.print channel (CommandLine.printed s))

/-- Prints a text in which the last reply may have a part with the results, unless surrogates in it prevent
that. -/
def printReported (s : List Char) : Act (Except CommandLine.SurrogateFault Unit) := do
  match CommandLine.surrogates? (← get).standIns s with
  | some fault => return .error fault
  | none =>
    effect (.print .results s)
    return .ok ()

end QueryPlayground.Act
