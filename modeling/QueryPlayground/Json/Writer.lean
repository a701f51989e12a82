import QueryPlayground.Json.Basic
import QueryPlayground.Binary64.Printing
import QueryPlayground.Text.Quoted

/-!
Writing JSON texts. A style fixes the blanks between the parts and whether characters outside ASCII are
escaped; the values themselves are written the same way in every style.
-/
namespace QueryPlayground.Json

/-- The layout of a written text. With an indentation every item stands on its own line; otherwise
`gap` follows each comma. -/
structure Style where
  asciiOnly : Bool
  gap : List Char
  colon : List Char
  indent : Option Nat

namespace Style

/-- One line, no blanks. -/
def compact : Style := ⟨false, [], [':'], none⟩

/-- One line, blanks after commas and colons, ASCII only. -/
def spaced : Style := ⟨true, [' '], [':', ' '], none⟩

/-- Two blanks of indentation for each level. -/
def indented : Style := ⟨false, [], [':', ' '], some 2⟩

/-- What stands before the first item and after the last one at a given depth. -/
def lead (style : Style) (depth : Nat) : List Char :=
  match style.indent with
  | none => []
  | some width => '\n' :: List.replicate (width * depth) ' '

/-- What follows a comma. -/
def afterComma (style : Style) (depth : Nat) : List Char :=
  match style.indent with
  | none => style.gap
  | some _ => style.lead depth

end Style

/-- An escape of one sixteen-bit unit. -/
def unitEscape (n : Nat) : List Char := '\\' :: 'u' :: Text.hexDigits 4 n

/-- A character by its code point; beyond sixteen bits it takes a pair of surrogates. -/
def codeEscape (n : Nat) : List Char :=
  if n < 0x10000 then unitEscape n
  else unitEscape (0xd800 + (n - 0x10000) / 0x400) ++ unitEscape (0xdc00 + (n - 0x10000) % 0x400)

/-- One character inside a written string. -/
def escapeChar (asciiOnly : Bool) (c : Char) : List Char :=
  if c = '"' then ['\\', '"']
  else if c = '\\' then ['\\', '\\']
  else if c = '\n' then ['\\', 'n']
  else if c = '\r' then ['\\', 'r']
  else if c = '\t' then ['\\', 't']
  else if c = '\x0c' then ['\\', 'f']
  else if c = '\x08' then ['\\', 'b']
  else if c.toNat < 0x20 ∨ (asciiOnly ∧ 0x7f ≤ c.toNat) then codeEscape c.toNat
  else [c]

def writeString (asciiOnly : Bool) (s : String) : List Char :=
  '"' :: (s.toList.flatMap (escapeChar asciiOnly) ++ ['"'])

def writeInt (n : Int) : List Char :=
  Binary64.signText (n < 0) ++ Nat.toDigits 10 n.natAbs

def writeFloat : Binary64 → List Char
  | .nan => ['N', 'a', 'N']
  | .infinite s => Binary64.signText s ++ ['I', 'n', 'f', 'i', 'n', 'i', 't', 'y']
  | x => x.text

mutual

/-- The text of a value at a depth of nesting. -/
def writeAt (style : Style) (depth : Nat) : Json → List Char
  | .null => ['n', 'u', 'l', 'l']
  | .bool true => ['t', 'r', 'u', 'e']
  | .bool false => ['f', 'a', 'l', 's', 'e']
  | .int n => writeInt n
  | .float x => writeFloat x
  | .str s => writeString style.asciiOnly s
  | .arr [] => ['[', ']']
  | .arr (x :: xs) =>
    '[' :: (style.lead (depth + 1) ++ writeAt style (depth + 1) x ++ writeItems style (depth + 1) xs ++
      style.lead depth ++ [']'])
  | .obj [] => ['\x7b', '\x7d']
  | .obj ((k, v) :: rest) =>
    '\x7b' :: (style.lead (depth + 1) ++ writeString style.asciiOnly k ++ style.colon ++
      writeAt style (depth + 1) v ++ writeMembers style (depth + 1) rest ++ style.lead depth ++ ['\x7d'])

/-- The items of an array after the first. -/
def writeItems (style : Style) (depth : Nat) : List Json → List Char
  | [] => []
  | x :: xs => ',' :: (style.afterComma depth ++ writeAt style depth x ++ writeItems style depth xs)

/-- The members of an object after the first. -/
def writeMembers (style : Style) (depth : Nat) : List (String × Json) → List Char
  | [] => []
  | (k, v) :: rest =>
    ',' :: (style.afterComma depth ++ writeString style.asciiOnly k ++ style.colon ++
      writeAt style depth v ++ writeMembers style depth rest)

end

def write (style : Style) (v : Json) : String := String.ofList (writeAt style 0 v)

/-- The indented form, in which results are shown. Integers of any length are written; where only those are that
`Text.isWritable` allows, this is the text of a value whose integers are all among them. -/
def dump (v : Json) : String := write .indented v

end QueryPlayground.Json
