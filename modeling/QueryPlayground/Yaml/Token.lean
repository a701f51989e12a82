import QueryPlayground.Yaml.Number
import QueryPlayground.Yaml.Scalar

/-!
The tokens of a text of settings, and the reading of those that have a name: directives, anchors,
aliases and tags.
-/
namespace QueryPlayground.Yaml

open Reading

/-- A tag as it is written: a handle, if it has one, and the rest. -/
structure TagText where
  handle : Option (List Char)
  suffix : List Char
  deriving DecidableEq, Repr

inductive Directive where
  | version (major : Int)
  | tagHandle (handle lead : List Char)
  | other
  deriving DecidableEq, Repr

inductive Token where
  | streamEnd
  | directive (directive : Directive)
  | documentStart
  | documentEnd
  | blockSequenceStart
  | blockMappingStart
  | blockEnd
  | flowSequenceStart
  | flowSequenceEnd
  | flowMappingStart
  | flowMappingEnd
  | blockEntry
  | flowEntry
  | key
  | value
  | alias (name : List Char)
  | anchor (name : List Char)
  | tag (tag : TagText)
  | scalar (text : List Char) (plain : Bool)
  deriving DecidableEq, Repr

/-- Letters, digits, and the two marks that names may hold. -/
def isNameChar (c : Char) : Bool :=
  ('0' ≤ c && c ≤ '9') || ('A' ≤ c && c ≤ 'Z') || ('a' ≤ c && c ≤ 'z') || c == '-' || c == '_'

/-- Takes the characters of a class, at least one. -/
def takeSome (p : Char → Bool) : Reading (List Char) := do
  let taken ← takeAll p
  if taken.isEmpty then refuse else return taken

/-- The name of an anchor or an alias; the cursor is at its mark. -/
def takeAnchor : Reading (List Char) := do
  skip 1
  let name ← takeSome isNameChar
  expect fun c => isGapOrEnd c || "?:,]\x7d%@\x60".toList.contains c
  return name

/-- A handle: a mark alone, or a name between two marks. -/
def takeHandle : Reading (List Char) := do
  expect (· == '!')
  if (← peekAt 1) == ' ' then
    skip 1
    return ['!']
  else
    let name := (← get).rest.tail.takeWhile isNameChar
    if (← peekAt (name.length + 1)) == '!' then
      skip (name.length + 2)
      return '!' :: (name ++ ['!'])
    else
      skip (name.length + 1)
      refuse

/-- The characters of a tag that stand for themselves. -/
def isTagChar (c : Char) : Bool := isNameChar c || ";/?:@&=+$,.!~*'()[]".toList.contains c

/-- The bytes of the escapes that stand next, the last one first. -/
def takeEscapes : Nat → List UInt8 → Reading (List UInt8)
  | 0, bytes => return bytes
  | fuel + 1, bytes => do
    if (← peek) == '%' then
      skip 1
      let code ← hexNumber 0 0 2
      skip 2
      takeEscapes fuel (code.toUInt8 :: bytes)
    else return bytes

/-- The text of a tag; runs of escapes must make characters. -/
def takeTagText : Nat → List (List Char) → Reading (List Char)
  | 0, pieces => return gathered pieces
  | fuel + 1, pieces => do
    let text ← takeAll isTagChar
    if (← peek) == '%' then
      match Text.ofUtf8 (← takeEscapes (← bound) []).reverse with
      | .error _ => refuse
      | .ok escaped => takeTagText fuel (escaped :: text :: pieces)
    else return gathered (text :: pieces)

/-- The text of a tag; something must be written. -/
def takeUri : Reading (List Char) := do
  let c ← peek
  let text ← takeTagText (← bound) []
  if isTagChar c || c == '%' then return text else refuse

/-- Whether a mark that ends a handle stands in front of the next space. -/
def hasHandle : Reading Bool := do
  let ahead := (← get).rest.tail.takeWhile fun c => !(isSpaceOrEnd c || c == '!')
  return (← peekAt (ahead.length + 1)) == '!'

/-- A tag; the cursor is at its mark. -/
def takeTag : Reading TagText := do
  let c ← peekAt 1
  let tag : TagText ←
    if c == '<' then do
      skip 2
      let suffix ← takeUri
      expect (· == '>')
      skip 1
      pure ⟨none, suffix⟩
    else if isGapOrEnd c then do
      skip 1
      pure ⟨none, ['!']⟩
    else do
      if ← hasHandle then
        let handle ← takeHandle
        pure ⟨some handle, ← takeUri⟩
      else
        skip 1
        pure ⟨some ['!'], ← takeUri⟩
  expect isSpaceOrEnd
  return tag

/-- The number that stands next. -/
def takeNumber : Reading Int := do
  let digits := (← get).rest.takeWhile Binary64.isAsciiDigit
  expect Binary64.isAsciiDigit
  ask (digits.length + 1)
  let n ← (readInteger 10 digits).mapError Fault.value
  skip digits.length
  return n

/-- A directive; the cursor is at its mark. -/
def takeDirective : Reading Directive := do
  skip 1
  let name ← takeSome isNameChar
  expect isSpaceOrEnd
  let directive ←
    if name = ['Y', 'A', 'M', 'L'] then do
      skipSpaces
      let major ← takeNumber
      expect (· == '.')
      skip 1
      let _ ← takeNumber
      expect isSpaceOrEnd
      pure (Directive.version major)
    else if name = ['T', 'A', 'G'] then do
      skipSpaces
      let handle ← takeHandle
      expect (· == ' ')
      skipSpaces
      let lead ← takeUri
      expect isSpaceOrEnd
      pure (Directive.tagHandle handle lead)
    else do
      skipAll fun c => !isBreak c
      pure Directive.other
  skipLineEnd
  return directive

end QueryPlayground.Yaml
