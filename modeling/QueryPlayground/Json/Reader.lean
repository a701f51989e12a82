import QueryPlayground.Json.Basic
import QueryPlayground.Text.IntegerText

/-!
Reading JSON texts. Next to the values of the standard the names `NaN`, `Infinity` and `-Infinity` are
accepted. A text that is no JSON is refused with the first place where it stops being one. An escape may
write half of a pair of surrogates without the other half, which is no character; the reader is told which
characters are to stand for these.
-/
namespace QueryPlayground.Json

/-- What was missing or wrong. -/
inductive Complaint where
  | expectedValue
  | expectedName
  | expectedColon
  | expectedComma
  | unterminatedString
  | controlCharacter
  | badEscape
  | badCodeEscape
  | extraData
  | byteOrderMark
  deriving DecidableEq, Repr

def Complaint.message : Complaint → String
  | .expectedValue => "Expecting value"
  | .expectedName => "Expecting property name enclosed in double quotes"
  | .expectedColon => "Expecting ':' delimiter"
  | .expectedComma => "Expecting ',' delimiter"
  | .unterminatedString => "Unterminated string starting at"
  | .controlCharacter => "Invalid control character at"
  | .badEscape => "Invalid \\escape"
  | .badCodeEscape => "Invalid \\uXXXX escape"
  | .extraData => "Extra data"
  | .byteOrderMark => "Unexpected UTF-8 BOM (decode using utf-8-sig)"

/-- Why reading stopped. A place is given by the number of characters from it to the end. -/
inductive Stop where
  | malformed (complaint : Complaint) (remaining : Nat)
  | integerTooLong (digits : Nat)
  deriving DecidableEq, Repr

/-- The blanks that may stand between the parts of a text. -/
def isGap (c : Char) : Bool := c == ' ' || c == '\t' || c == '\n' || c == '\r'

def skipGaps (s : List Char) : List Char := s.dropWhile isGap

/-- The unit that four hexadecimal digits denote. -/
def unit? (a b c d : Char) : Option Nat := do
  let a ← Text.hexValue? a
  let b ← Text.hexValue? b
  let c ← Text.hexValue? c
  let d ← Text.hexValue? d
  some (((a * 16 + b) * 16 + c) * 16 + d)

def isHighSurrogate (n : Nat) : Bool := 0xd800 ≤ n && n < 0xdc00

def isLowSurrogate (n : Nat) : Bool := 0xdc00 ≤ n && n < 0xe000

/-- The character of a single unit; a surrogate without its partner has none, and another one stands in. -/
def unitChar (standIn : Nat → Char) (n : Nat) : Char :=
  if isHighSurrogate n || isLowSurrogate n then standIn n else Char.ofNat n

def pairChar (high low : Nat) : Char := Char.ofNat (0x10000 + (high - 0xd800) * 0x400 + (low - 0xdc00))

/-- The character that a one-letter escape denotes. -/
def simpleEscape? (c : Char) : Option Char :=
  if c = '"' ∨ c = '\\' ∨ c = '/' then some c
  else if c = 'b' then some '\x08'
  else if c = 'f' then some '\x0c'
  else if c = 'n' then some '\n'
  else if c = 'r' then some '\r'
  else if c = 't' then some '\t'
  else none

/-- Reads a string after its opening mark; `start` is the place of that mark, and `done` holds what
has been read, the last character first. An escape by code needs a character after its four digits. -/
def readString (standIn : Nat → Char) (start : Nat) (done : List Char) : List Char → Except Stop (String × List Char)
  | [] => .error (.malformed .unterminatedString start)
  | '"' :: rest => .ok (String.ofList done.reverse, rest)
  | '\\' :: 'u' :: a :: b :: c :: d :: '\\' :: 'u' :: e :: f :: g :: h :: x :: rest =>
    match unit? a b c d with
    | none => .error (.malformed .badCodeEscape (rest.length + 12))
    | some high =>
      if isHighSurrogate high then
        match unit? e f g h with
        | none => .error (.malformed .badCodeEscape (rest.length + 6))
        | some low =>
          if isLowSurrogate low then readString standIn start (pairChar high low :: done) (x :: rest)
          else readString standIn start (unitChar standIn high :: done) ('\\' :: 'u' :: e :: f :: g :: h :: x :: rest)
      else readString standIn start (unitChar standIn high :: done) ('\\' :: 'u' :: e :: f :: g :: h :: x :: rest)
  | '\\' :: 'u' :: a :: b :: c :: d :: x :: rest =>
    match unit? a b c d with
    | none => .error (.malformed .badCodeEscape (rest.length + 6))
    | some n => readString standIn start (unitChar standIn n :: done) (x :: rest)
  | '\\' :: 'u' :: rest => .error (.malformed .badCodeEscape (rest.length + 1))
  | ['\\'] => .error (.malformed .unterminatedString start)
  | '\\' :: c :: rest =>
    match simpleEscape? c with
    | some e => readString standIn start (e :: done) rest
    | none => .error (.malformed .badEscape (rest.length + 2))
  | c :: rest =>
    if c.toNat < 0x20 then .error (.malformed .controlCharacter (rest.length + 1))
    else readString standIn start (c :: done) rest

/-- The digits after a point, if a point with a digit stands next. -/
def readFraction : List Char → Option (List Char × List Char)
  | '.' :: d :: rest =>
    if Binary64.isAsciiDigit d then
      some (d :: rest.takeWhile Binary64.isAsciiDigit, rest.dropWhile Binary64.isAsciiDigit)
    else none
  | _ => none

/-- The power of ten after an `e`, if it has a digit. -/
def readExponent : List Char → Option (Int × List Char)
  | c :: rest =>
    if c = 'e' ∨ c = 'E' then
      let (negative, digits) := Text.splitSign rest
      let row := digits.takeWhile Binary64.isAsciiDigit
      if row.isEmpty then none
      else
        let power : Int := Binary64.digitsValue row
        some (if negative then -power else power, digits.dropWhile Binary64.isAsciiDigit)
    else none
  | [] => none

/-- What follows the whole part decides between an integer and a double. -/
def finishNumber (negative : Bool) (whole rest : List Char) : Except Stop (Json × List Char) :=
  match readFraction rest, readExponent ((readFraction rest).elim rest Prod.snd) with
  | none, none =>
    if Text.maxIntegerDigits < whole.length then .error (.integerTooLong whole.length)
    else .ok (.int (Binary64.signed negative (Binary64.digitsValue whole)), rest)
  | fraction, exponent =>
    let digits := fraction.elim [] Prod.fst
    let rest := fraction.elim rest Prod.snd
    let (power, rest) := exponent.getD (0, rest)
    .ok (.float (Binary64.ofParts negative whole digits power), rest)

/-- Reads a number: an integer without leading zeros, then perhaps a fraction and an exponent. -/
def readNumber (s : List Char) : Except Stop (Json × List Char) :=
  let (negative, body) := match s with
    | '-' :: rest => (true, rest)
    | rest => (false, rest)
  match body with
  | [] => .error (.malformed .expectedValue s.length)
  | c :: rest =>
    if c = '0' then finishNumber negative [c] rest
    else if Binary64.isAsciiDigit c then
      finishNumber negative (c :: rest.takeWhile Binary64.isAsciiDigit)
        (rest.dropWhile Binary64.isAsciiDigit)
    else .error (.malformed .expectedValue s.length)

mutual

/-- Reads one value from the front of a text. Every call takes at least one character or leads to one
that does, so twice the length of the text is fuel enough. -/
def readValue (standIn : Nat → Char) : Nat → List Char → Except Stop (Json × List Char)
  | 0, s => .error (.malformed .expectedValue s.length)
  | _ + 1, '"' :: rest => (readString standIn (rest.length + 1) [] rest).map fun (s, rest) => (.str s, rest)
  | fuel + 1, '\x7b' :: rest =>
    match skipGaps rest with
    | '\x7d' :: rest => .ok (.obj [], rest)
    | rest => (readMembers standIn fuel [] rest).map fun (members, rest) => (.obj members, rest)
  | fuel + 1, '[' :: rest =>
    match skipGaps rest with
    | ']' :: rest => .ok (.arr [], rest)
    | rest => (readItems standIn fuel [] rest).map fun (items, rest) => (.arr items, rest)
  | _ + 1, 'n' :: 'u' :: 'l' :: 'l' :: rest => .ok (.null, rest)
  | _ + 1, 't' :: 'r' :: 'u' :: 'e' :: rest => .ok (.bool true, rest)
  | _ + 1, 'f' :: 'a' :: 'l' :: 's' :: 'e' :: rest => .ok (.bool false, rest)
  | _ + 1, 'N' :: 'a' :: 'N' :: rest => .ok (.float .nan, rest)
  | _ + 1, 'I' :: 'n' :: 'f' :: 'i' :: 'n' :: 'i' :: 't' :: 'y' :: rest =>
    .ok (.float (.infinite false), rest)
  | _ + 1, '-' :: 'I' :: 'n' :: 'f' :: 'i' :: 'n' :: 'i' :: 't' :: 'y' :: rest =>
    .ok (.float (.infinite true), rest)
  | _ + 1, s => readNumber s

/-- Reads the items of an array up to its end; `done` holds the items read, the last one first. -/
def readItems (standIn : Nat → Char) : Nat → List Json → List Char → Except Stop (List Json × List Char)
  | 0, _, s => .error (.malformed .expectedValue s.length)
  | fuel + 1, done, s =>
    match readValue standIn fuel s with
    | .error stop => .error stop
    | .ok (item, rest) =>
      match skipGaps rest with
      | ']' :: rest => .ok ((item :: done).reverse, rest)
      | ',' :: rest => readItems standIn fuel (item :: done) (skipGaps rest)
      | rest => .error (.malformed .expectedComma rest.length)

/-- Reads the members of an object up to its end. A name that comes again replaces the value. -/
def readMembers (standIn : Nat → Char) : Nat → List (String × Json) → List Char →
    Except Stop (List (String × Json) × List Char)
  | 0, _, s => .error (.malformed .expectedName s.length)
  | fuel + 1, done, '"' :: rest =>
    match readString standIn (rest.length + 1) [] rest with
    | .error stop => .error stop
    | .ok (name, rest) =>
      match skipGaps rest with
      | ':' :: rest =>
        match readValue standIn fuel (skipGaps rest) with
        | .error stop => .error stop
        | .ok (value, rest) =>
          let members := setMember name value done
          match skipGaps rest with
          | '\x7d' :: rest => .ok (members, rest)
          | ',' :: rest => readMembers standIn fuel members (skipGaps rest)
          | rest => .error (.malformed .expectedComma rest.length)
      | rest => .error (.malformed .expectedColon rest.length)
  | _ + 1, _, s => .error (.malformed .expectedName s.length)

end

/-- Reads a text that holds one value and nothing else but blanks. -/
def readChars (standIn : Nat → Char) (s : List Char) : Except Stop Json :=
  if s.head? = some '\ufeff' then .error (.malformed .byteOrderMark s.length)
  else
    match readValue standIn (2 * s.length + 2) (skipGaps s) with
    | .error stop => .error stop
    | .ok (value, rest) =>
      match skipGaps rest with
      | [] => .ok value
      | rest => .error (.malformed .extraData rest.length)

/-- Why a text was refused, with its place as an offset, a line and a column. -/
inductive ReadFault where
  | malformed (complaint : Complaint) (offset line column : Nat)
  | integerTooLong (digits : Nat)
  deriving DecidableEq, Repr

namespace ReadFault

/-- Lines and columns count from one; a line ends with its line feed. -/
def ofStop (s : List Char) : Stop → ReadFault
  | .integerTooLong digits => .integerTooLong digits
  | .malformed complaint remaining =>
    let offset := s.length - remaining
    let before := s.take offset
    let line := before.count '\n' + 1
    let column := (before.reverse.takeWhile (· != '\n')).length + 1
    .malformed complaint offset line column

def message : ReadFault → String
  | .malformed complaint offset line column =>
    complaint.message ++ s!": line {line} column {column} (char {offset})"
  | .integerTooLong digits => Text.integerLimitMessage (some digits)

end ReadFault

/-- The character that is put where there is none. -/
def replacement : Char := '\ufffd'

/-- The value that a text denotes, or why it denotes none. Surrogates without their partners are replaced. -/
def read (s : String) : Except ReadFault Json :=
  (readChars (fun _ => replacement) s.toList).mapError (ReadFault.ofStop s.toList)

end QueryPlayground.Json
