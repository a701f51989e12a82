import QueryPlayground.Text.Split
import QueryPlayground.Yaml.Timestamp

/-!
The types of the parts of a settings text. A tag may be written out; the type of a plain scalar without
one is read off its text.
-/
namespace QueryPlayground.Yaml

/-- The known types; all others are unknown. -/
inductive Tag where
  | null
  | bool
  | int
  | float
  | binary
  | timestamp
  | str
  | seq
  | map
  | set
  | omap
  | pairs
  | merge
  | value
  | unknown
  deriving DecidableEq, Repr, Inhabited

namespace Tag

/-- What the names of all known types begin with. -/
def commonLead : List Char := "tag:yaml.org,2002:".toList

def named : List (String × Tag) :=
  [("null", .null), ("bool", .bool), ("int", .int), ("float", .float), ("binary", .binary),
   ("timestamp", .timestamp), ("str", .str), ("seq", .seq), ("map", .map), ("set", .set),
   ("omap", .omap), ("pairs", .pairs), ("merge", .merge), ("value", .value)]

/-- The type of a full name. -/
def ofName (name : List Char) : Tag :=
  if commonLead.isPrefixOf name then
    (named.lookup (String.ofList (name.drop commonLead.length))).getD .unknown
  else .unknown

/-- Types whose values are collections. -/
def isCollection : Tag → Bool
  | .seq => true
  | .map => true
  | .set => true
  | .omap => true
  | .pairs => true
  | _ => false

end Tag

/-! The forms of plain scalars. -/

/-- Words in small letters, in capitals, or with a capital in front. -/
def isWordOf (words : List String) (s : List Char) : Bool :=
  words.any fun word =>
    let word := word.toList
    s == word || s == word.map Char.toUpper || s == (word.take 1).map Char.toUpper ++ word.drop 1

def isBooleanForm : List Char → Bool := isWordOf ["yes", "no", "true", "false", "on", "off"]

def isNullForm (s : List Char) : Bool := s == ['~'] || isWordOf ["null"] s

def isLowDigit (c : Char) : Bool := Binary64.isAsciiDigit c || c == '_'

/-- A digit, and digits and low lines after it. -/
def isNumeral : List Char → Bool
  | [] => false
  | c :: rest => Binary64.isAsciiDigit c && rest.all isLowDigit

/-- A number below sixty, of one or two digits. -/
def isSixtieth : List Char → Bool
  | [c] => Binary64.isAsciiDigit c
  | [c, d] => '0' ≤ c && c ≤ '5' && Binary64.isAsciiDigit d
  | _ => false

/-- Numbers with colons between them, all but the first below sixty. -/
def isSexagesimal (s : List Char) : Bool :=
  match Text.pieces ':' s with
  | first :: second :: more => isNumeral first && (second :: more).all isSixtieth
  | _ => false

/-- Nothing, or a power of ten with a sign. -/
def isExponentForm : List Char → Bool
  | [] => true
  | e :: sign :: digits =>
    (e == 'e' || e == 'E') && (sign == '-' || sign == '+') && !digits.isEmpty &&
      digits.all Binary64.isAsciiDigit
  | _ => false

def withoutSign (s : List Char) : List Char := (Text.splitSign s).2

def isFloatForm (s : List Char) : Bool :=
  let bare := withoutSign s
  let whole := bare.takeWhile (· != '.')
  match bare.drop whole.length with
  | [] => false
  | _ :: rest =>
    let fraction := rest.takeWhile isLowDigit
    let exponent := rest.drop fraction.length
    if whole.isEmpty then
      ["inf".toList, "Inf".toList, "INF".toList].contains rest ||
        (bare == s &&
          (["nan".toList, "NaN".toList, "NAN".toList].contains rest ||
            (isNumeral fraction && isExponentForm exponent)))
    else
      (isNumeral whole && isExponentForm exponent) || (isSexagesimal whole && exponent.isEmpty)

def isHexLow (c : Char) : Bool := (Text.hexValue? c).isSome || c == '_'

def isIntegerForm (s : List Char) : Bool :=
  match withoutSign s with
  | ['0'] => true
  | '0' :: 'b' :: digits => !digits.isEmpty && digits.all fun c => c == '0' || c == '1' || c == '_'
  | '0' :: 'x' :: digits => !digits.isEmpty && digits.all isHexLow
  | '0' :: digits => digits.all fun c => ('0' ≤ c && c ≤ '7') || c == '_'
  | digits => isNumeral digits || isSexagesimal digits

/-- The type of a plain scalar. A line break at its end does not count. The marks of tags, anchors and
aliases have no known type when they stand alone. -/
def Tag.ofPlain (text : List Char) : Tag :=
  if text.isEmpty then .null
  else
    let s := if text.getLast? = some '\n' then text.dropLast else text
    if isBooleanForm s then .bool
    else if isFloatForm s then .float
    else if isIntegerForm s then .int
    else if s = ['<', '<'] then .merge
    else if isNullForm s then .null
    else if Timestamp.isPlain s then .timestamp
    else if s = ['='] then .value
    else if s = ['!'] ∨ s = ['&'] ∨ s = ['*'] then .unknown
    else .str

end QueryPlayground.Yaml
