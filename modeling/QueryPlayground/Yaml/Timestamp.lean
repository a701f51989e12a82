import QueryPlayground.Settings.Scalar
import QueryPlayground.Yaml.Scalar

/-!
Dates and times in texts of settings: a date, and after it perhaps a time of day, a fraction of a second
and a zone.
-/
namespace QueryPlayground.Yaml

/-- A zone as it is written: the letter for none, or a difference. -/
inductive Zone where
  | zulu
  | ahead (hours minutes : Nat)
  | behind (hours minutes : Nat)
  deriving DecidableEq, Repr

structure TimeOfDay where
  hour : Nat
  minute : Nat
  second : Nat
  fraction : List Char
  zone : Option Zone
  deriving DecidableEq, Repr

/-- A date and time as they are written; their numbers may be out of range. -/
structure Timestamp where
  year : Nat
  month : Nat
  day : Nat
  time : Option TimeOfDay
  deriving DecidableEq, Repr

/-- A number of `least` to `most` digits at the front of a text, and the rest. -/
def numberAtFront? (least most : Nat) (s : List Char) : Option (Nat × List Char) :=
  let digits := (s.take most).takeWhile Binary64.isAsciiDigit
  if digits.length < least then none
  else some (Binary64.digitsValue digits, s.drop digits.length)

/-- The text behind a character at its front. -/
def after? (c : Char) : List Char → Option (List Char)
  | [] => none
  | d :: rest => if d = c then some rest else none

/-- The text behind what separates a date from a time. -/
def afterDate? (s : List Char) : Option (List Char) :=
  match s with
  | [] => none
  | c :: rest =>
    if c = 'T' ∨ c = 't' then some rest
    else if isBlank c then some (rest.dropWhile isBlank)
    else none

def Zone.ofText? : List Char → Option Zone
  | ['Z'] => some .zulu
  | sign :: rest => do
    let (hours, rest) ← numberAtFront? 1 2 rest
    let minutes ← match rest with
      | [] => some 0
      | _ => do
        let (minutes, rest) ← numberAtFront? 2 2 (← after? ':' rest)
        if rest.isEmpty then some minutes else none
    if sign = '+' then some (.ahead hours minutes)
    else if sign = '-' then some (.behind hours minutes)
    else none
  | [] => none

def TimeOfDay.ofText? (s : List Char) : Option TimeOfDay := do
  let (hour, s) ← numberAtFront? 1 2 s
  let (minute, s) ← numberAtFront? 2 2 (← after? ':' s)
  let (second, s) ← numberAtFront? 2 2 (← after? ':' s)
  let (fraction, s) := match s with
    | '.' :: rest => (rest.takeWhile Binary64.isAsciiDigit, rest.dropWhile Binary64.isAsciiDigit)
    | _ => ([], s)
  if s.isEmpty then some ⟨hour, minute, second, fraction, none⟩
  else (Zone.ofText? (s.dropWhile isBlank)).map fun zone => ⟨hour, minute, second, fraction, some zone⟩

namespace Timestamp

def ofText? (s : List Char) : Option Timestamp := do
  let (year, s) ← numberAtFront? 4 4 s
  let (month, s) ← numberAtFront? 1 2 (← after? '-' s)
  let (day, s) ← numberAtFront? 1 2 (← after? '-' s)
  if s.isEmpty then some ⟨year, month, day, none⟩
  else (TimeOfDay.ofText? (← afterDate? s)).map fun time => ⟨year, month, day, some time⟩

/-- Whether a plain text is a timestamp without being called one: a date alone needs all its digits. -/
def isPlain (s : List Char) : Bool :=
  match ofText? s with
  | none => false
  | some stamp => stamp.time.isSome || s.length == 10

/-- The microseconds of a fraction; further digits do not count. -/
def microseconds (fraction : List Char) : Nat :=
  let digits := fraction.take 6
  Binary64.digitsValue (digits ++ List.replicate (6 - digits.length) '0')

/-- The minutes by which a zone is ahead. -/
def offset : Zone → Int
  | .zulu => 0
  | .ahead hours minutes => 60 * hours + minutes
  | .behind hours minutes => -(60 * hours + minutes : Int)

/-- The date or time that is meant. -/
def value (stamp : Timestamp) : Except CalendarFault Scalar :=
  match stamp.time with
  | none => (Date.make stamp.year stamp.month stamp.day).map .date
  | some time =>
    (Instant.make stamp.year stamp.month stamp.day time.hour time.minute time.second
      (microseconds time.fraction) (time.zone.map offset)).map .instant

end Timestamp
end QueryPlayground.Yaml
