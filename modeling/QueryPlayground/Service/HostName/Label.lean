import QueryPlayground.Service.HostName.Composition
import QueryPlayground.Service.HostName.Direction
import QueryPlayground.Service.HostName.Joining
import QueryPlayground.Service.HostName.Letter
import QueryPlayground.Service.HostName.Script
import QueryPlayground.Text.Punycode
import QueryPlayground.Text.Split

/-!
Labels, the parts of a host name between its dots. A label outside ASCII is sent in an ASCII form, which
only a valid label has.
-/
namespace QueryPlayground.Service.HostName

/-- A label has at most this many characters when it is sent. -/
def maxLabel : Nat := 63

/-- What stands in front of the ASCII form of a label. -/
def encodedMark : List Char := "xn--".toList

/-- The two kinds of digits that no label mixes. -/
def arabicDigits : Text.Spans := [(0x660, 0x669)]

def persianDigits : Text.Spans := [(0x6f0, 0x6f9)]

/-- Whether a character that is no letter may stand behind the characters of `before`, the nearest first,
and in front of those of `after`. -/
def allowsBetween (before : List Char) (c : Char) (after : List Char) : Bool :=
  let holds (p : Char → Bool) := before.any p || after.any p
  match c.toNat with
  | 0xb7 => before.head? = some 'l' && after.head? = some 'l'
  | 0x375 => after.head?.any isGreek
  | 0x5f3 => before.head?.any isHebrew
  | 0x5f4 => before.head?.any isHebrew
  | 0x30fb => holds fun d => d != c && isDotted d
  | 0x200c => allowsNonJoiner before after
  | 0x200d => allowsJoiner before
  | n =>
    if arabicDigits.contains n then !holds fun d => persianDigits.contains d.toNat
    else if persianDigits.contains n then !holds fun d => arabicDigits.contains d.toNat
    else false

/-- Whether all characters of a label may stand where they do; those of `before` have been looked at. -/
def allowsAll (before : List Char) : List Char → Bool
  | [] => true
  | c :: rest => (isLetter c || allowsBetween before c rest) && allowsAll (c :: before) rest

/-- Hyphens stand neither at the ends of a label nor at its third and fourth place together. -/
def hasGoodHyphens (label : List Char) : Bool :=
  label.head? != some '-' && label.getLast? != some '-' && (label.drop 2).take 2 != ['-', '-']

def isLabel (label : List Char) : Bool :=
  !label.isEmpty && hasGoodHyphens label && !label.head?.any isMark && allowsAll [] label &&
    isComposed label && agree (label.map direction)

def isAscii (s : List Char) : Bool := s.all (·.toNat < 0x80)

/-- Whether an ASCII label is valid; one that is in the form of another must decode to a valid one. -/
def isPlainLabel (label : List Char) : Bool :=
  if encodedMark.isPrefixOf label then
    let code := label.drop encodedMark.length
    code.getLast?.any (· != '-') && (Text.Punycode.decode? code).any isLabel
  else isLabel label

/-- The form in which a label is sent. -/
def sentLabel? (label : List Char) : Option (List Char) :=
  let (isValid, sent) :=
    if isAscii label then (isPlainLabel label, label)
    else (isLabel label, encodedMark ++ Text.Punycode.encode label)
  if isValid && sent.length ≤ maxLabel then some sent else none

/-- A host name has at most this many characters when it is sent, a dot at its end aside. -/
def maxName : Nat := 253

/-- The characters that count as dots. -/
def dots : List Char := ['.', '\u3002', '\uff0e', '\uff61']

/-- The form in which a name in small letters is sent: label by label, and a dot may end it. -/
def sent? (name : List Char) : Option (List Char) := do
  guard (name.length ≤ maxName + 1)
  let labels := Text.pieces '.' (name.map fun c => if c ∈ dots then '.' else c)
  let isEnded := labels.getLast? = some []
  let labels := if isEnded then labels.dropLast else labels
  let sent := Text.joined '.' (← labels.mapM sentLabel?)
  guard (sent.length ≤ maxName)
  return if isEnded then sent ++ ['.'] else sent

end QueryPlayground.Service.HostName
