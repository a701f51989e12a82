/-!
Reading UTF-8. A sequence of bytes is read character by character; the first byte tells how many follow
and bounds the second one. The first sequence that is no character ends the reading. Surrogates are no
characters either, unless a reader is told which characters are to stand for them.
-/
namespace QueryPlayground.Text

/-- What is wrong with a sequence of bytes. -/
inductive Utf8Reason where
  | startByte
  | continuationByte
  | endOfData
  deriving DecidableEq, Repr

def Utf8Reason.message : Utf8Reason → String
  | .startByte => "invalid start byte"
  | .continuationByte => "invalid continuation byte"
  | .endOfData => "unexpected end of data"

/-- Where reading stopped: the place, the first byte there and the number of bytes that belong to the
sequence. -/
structure Utf8Fault where
  start : Nat
  size : Nat
  byte : UInt8
  reason : Utf8Reason
  deriving DecidableEq, Repr

/-- The number of bytes after a first byte, and the bounds of the next one. Encodings of surrogates
count as characters when `surrogates` is set. -/
def followers? (surrogates : Bool) (b : Nat) : Option (Nat × Nat × Nat) :=
  if b < 0x80 then some (0, 0x80, 0xbf)
  else if b < 0xc2 then none
  else if b < 0xe0 then some (1, 0x80, 0xbf)
  else if b = 0xe0 then some (2, 0xa0, 0xbf)
  else if b = 0xed then some (2, 0x80, if surrogates then 0xbf else 0x9f)
  else if b < 0xf0 then some (2, 0x80, 0xbf)
  else if b = 0xf0 then some (3, 0x90, 0xbf)
  else if b < 0xf4 then some (3, 0x80, 0xbf)
  else if b = 0xf4 then some (3, 0x80, 0x8f)
  else none

/-- Reads `count` more bytes into `code`, or tells how many could be read and why no more. -/
def readFollowers : Nat → Nat → Nat → Nat → List UInt8 → Except (Nat × Utf8Reason) Nat
  | 0, _, _, code, _ => .ok code
  | _ + 1, _, _, _, [] => .error (0, .endOfData)
  | count + 1, low, high, code, b :: rest =>
    if low ≤ b.toNat ∧ b.toNat ≤ high then
      match readFollowers count 0x80 0xbf (code * 64 + b.toNat % 64) rest with
      | .ok code => .ok code
      | .error (n, reason) => .error (n + 1, reason)
    else .error (0, .continuationByte)

/-- The bits that a first byte contributes. -/
def leadBits (count b : Nat) : Nat := if count = 0 then b else b % Nat.pow 2 (6 - count)

/-- The character of a code. The codes of surrogates have none, and other characters stand in for them. -/
def charOfCode (standIn : Nat → Char) (code : Nat) : Char :=
  if 0xd800 ≤ code ∧ code < 0xe000 then standIn code else Char.ofNat code

/-- Reads the bytes from a place on; `done` holds what has been read, the last character first. Without
characters that stand for surrogates these are faults. -/
def readUtf8 (standIn? : Option (Nat → Char)) (place : Nat) (done : List Char) :
    List UInt8 → Except Utf8Fault (List Char)
  | [] => .ok done.reverse
  | b :: rest =>
    match followers? standIn?.isSome b.toNat with
    | none => .error ⟨place, 1, b, .startByte⟩
    | some (count, low, high) =>
      match readFollowers count low high (leadBits count b.toNat) rest with
      | .error (n, reason) => .error ⟨place, n + 1, b, reason⟩
      | .ok code =>
        readUtf8 standIn? (place + count + 1) (charOfCode (standIn?.getD Char.ofNat) code :: done) (rest.drop count)
termination_by bytes => bytes.length
decreasing_by simp only [List.length_drop, List.length_cons]; omega

/-- The text that bytes encode. -/
def ofUtf8 (bytes : List UInt8) : Except Utf8Fault (List Char) := readUtf8 none 0 [] bytes

end QueryPlayground.Text
