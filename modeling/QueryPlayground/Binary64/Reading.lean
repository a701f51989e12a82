import QueryPlayground.Binary64.Basic
import QueryPlayground.Text.Blank
import QueryPlayground.Text.Digit

/-!
Reading decimal texts as double-precision numbers. Any text that `ofText?` accepts denotes an exact
decimal number, an infinity or a NaN, and the decimal is rounded once.
-/
namespace QueryPlayground.Binary64

/-- The number that a row of ASCII digits denotes. -/
def digitsValue (s : List Char) : Nat := s.foldl (fun n c => 10 * n + (c.toNat - 48)) 0

/-- The double nearest to `value * 10 ^ power`, where `value` has at most `size` digits. Far outside
the range of the finite numbers the power itself decides, so it is never raised. -/
def ofDecimal (negative : Bool) (value size : Nat) (power : Int) : Binary64 :=
  if value = 0 then .finite negative 0 minExponent
  else if 400 < power then .infinite negative
  else if power < -400 - (size : Int) then .finite negative 0 minExponent
  else if 0 ≤ power then ofRatio negative (value * Nat.pow 10 power.toNat) 1
  else ofRatio negative value (Nat.pow 10 (-power).toNat)

/-- A decimal split into its parts: digits before and after the point, and the power of ten. -/
def ofParts (negative : Bool) (whole fraction : List Char) (power : Int) : Binary64 :=
  let digits := whole ++ fraction
  ofDecimal negative (digitsValue digits) digits.length (power - fraction.length)

def isAsciiDigit (c : Char) : Bool := '0' ≤ c && c ≤ '9'

/-- The power of ten written after the digits: nothing, or `e`, a sign and at least one digit. -/
def exponentPart? : List Char → Option Int
  | [] => some 0
  | c :: rest =>
    if c = 'e' ∨ c = 'E' then
      let (negative, digits) := Text.splitSign rest
      if digits.isEmpty || !digits.all isAsciiDigit then none
      else some (if negative then -(digitsValue digits : Int) else digitsValue digits)
    else none

/-- Digits with at most one point among them, at least one digit, and an optional exponent. -/
def unsigned? (negative : Bool) (s : List Char) : Option Binary64 :=
  let whole := s.takeWhile isAsciiDigit
  let afterWhole := s.dropWhile isAsciiDigit
  let (fraction, rest) := match afterWhole with
    | '.' :: r => (r.takeWhile isAsciiDigit, r.dropWhile isAsciiDigit)
    | r => ([], r)
  if whole.isEmpty && fraction.isEmpty then none
  else (exponentPart? rest).map (ofParts negative whole fraction)

/-- The names of the numbers that are not finite, in any mixture of cases. -/
def named? (negative : Bool) (s : List Char) : Option Binary64 :=
  let name := s.map Char.toLower
  if name = ['i', 'n', 'f'] ∨ name = ['i', 'n', 'f', 'i', 'n', 'i', 't', 'y'] then
    some (.infinite negative)
  else if name = ['n', 'a', 'n'] then some .nan
  else none

/-- Removes the low lines that separate digits; one that does not stand between two digits spoils
the text. -/
def joinDigits? : List Char → Option (List Char)
  | [] => some []
  | ['_'] => none
  | '_' :: _ :: _ => none
  | [c] => some [c]
  | c :: '_' :: d :: rest =>
    if isAsciiDigit c && isAsciiDigit d then (joinDigits? (d :: rest)).map (c :: ·) else none
  | [_, '_'] => none
  | c :: d :: rest => (joinDigits? (d :: rest)).map (c :: ·)

/-- The number that a text denotes: white space around it is dropped, digits of every script count,
and low lines may separate digits. -/
def ofText? (s : List Char) : Option Binary64 :=
  (joinDigits? (Text.plainDigits (Text.trimBy Text.isMargin s))).bind fun plain =>
    let (negative, rest) := Text.splitSign plain
    (named? negative rest).or (unsigned? negative rest)

end QueryPlayground.Binary64
