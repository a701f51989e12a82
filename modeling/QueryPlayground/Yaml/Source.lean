import QueryPlayground.Text.Lines
import QueryPlayground.Yaml.Fault

/-!
How the text of a file comes in. Bytes are decoded block by block, and the characters are handed on in
portions. What is wrong with a portion shows only when the portion is asked for, so everything in front of
it is read first.
-/
namespace QueryPlayground.Yaml

/-- A text as far as it can be read, and what it breaks off at, if it does. -/
structure Source where
  text : List Char
  ending : Option Ending
  deriving Repr

/-- A block has at least this many bytes. -/
def blockSize : Nat := 8192

/-- A portion has this many characters, the last one excepted. -/
def portionSize : Nat := 4096

/-- How far decoding has come. `done` holds the characters of the blocks so far, the last block first, and
`count` is their number. `left` holds the bytes of a character that is not complete yet, `held` tells
whether a carriage return waits for what follows, and `growth` gives the bytes and characters of the last
block. -/
structure Decoding where
  done : List (List Char)
  count : Nat
  left : List UInt8
  held : Bool
  growth : Nat × Nat

namespace Decoding

def start : Decoding := ⟨[], 0, [], false, (0, 0)⟩

def text (decoding : Decoding) : List Char := decoding.done.reverse.flatten

/-- The size of the next block: enough for the rest of the current portion, if the next characters are as
long as those of the last block. -/
def nextSize (decoding : Decoding) : Nat :=
  let missing := portionSize - decoding.count % portionSize
  let (bytes, chars) := decoding.growth
  max blockSize (if chars < bytes ∧ chars ≠ 0 then missing * bytes / chars else missing)

/-- Adds the characters of a block of some bytes; the last block may end with a carriage return. -/
def add (decoding : Decoding) (chars : List Char) (left : List UInt8) (bytes : Nat) (last : Bool) :
    Decoding :=
  let joined := decoding.held && (last || !chars.isEmpty)
  let chars := if joined then '\r' :: chars else chars
  let kept := !last && chars.getLast? == some '\r'
  let chars := Text.unifyBreaks (if kept then chars.dropLast else chars)
  { done := chars :: decoding.done
    count := decoding.count + chars.length
    left
    held := kept || (decoding.held && !joined)
    growth := (bytes, chars.length) }

/-- Decodes blocks up to the first fault. -/
def run : Nat → Decoding → List UInt8 → Decoding × Option Text.Utf8Fault
  | 0, decoding, _ => (decoding, none)
  | fuel + 1, decoding, rest =>
    let block := rest.take decoding.nextSize
    let bytes := decoding.left ++ block
    if block.isEmpty then
      match Text.ofUtf8 bytes with
      | .error fault => (decoding, some fault)
      | .ok chars => (decoding.add chars [] 0 true, none)
    else
      let rest := rest.drop block.length
      match Text.ofUtf8 bytes with
      | .ok chars => run fuel (decoding.add chars [] block.length false) rest
      | .error fault =>
        match fault.reason, Text.ofUtf8 (bytes.take fault.start) with
        | .endOfData, .ok chars =>
          run fuel (decoding.add chars (bytes.drop fault.start) block.length false) rest
        | _, _ => (decoding, some fault)

end Decoding

/-- Characters that may occur in a text of settings. -/
def isAllowed (c : Char) : Bool :=
  let n := c.toNat
  n == 0x09 || n == 0x0a || n == 0x0d || (0x20 ≤ n && n ≤ 0x7e) || n == 0x85 ||
    (0xa0 ≤ n && n ≤ 0xfffd) || 0x10000 ≤ n

namespace Source

/-- The number of characters in the whole portions before a place. The first two portions come in as
one. -/
def wholePortions (place : Nat) : Nat := if place < 2 * portionSize then 0 else place - place % portionSize

/-- The source of characters that may have a fault behind them: the portion of the fault is not read, nor is
the portion of a character that is not allowed. -/
def ofChars (chars : List Char) (fault : Option Text.Utf8Fault) : Source :=
  let chars := if fault.isSome then chars.take (wholePortions chars.length) else chars
  match chars.findIdx? fun c => !isAllowed c with
  | none => ⟨chars, fault.map .encoding⟩
  | some place => ⟨chars.take (wholePortions place), some .character⟩

def ofBytes (bytes : List UInt8) : Source :=
  let (decoding, fault) := Decoding.start.run (bytes.length + 1) bytes
  ofChars decoding.text fault

end Source
end QueryPlayground.Yaml
