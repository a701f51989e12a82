import QueryPlayground.Text.Utf8

/-!
Finding out how the bytes of a JSON text encode its characters. A byte order mark decides; without one,
the zero bytes among the first four do, since a JSON text starts with ASCII characters. Surrogates without
their partners may be encoded like characters, so the reader is told which characters stand for them.
-/
namespace QueryPlayground.Service

/-- The order of the bytes in a unit. -/
inductive ByteOrder where
  | big
  | little
  deriving DecidableEq, Repr

/-- How bytes encode characters. -/
inductive Encoding where
  | utf8
  | utf16 (order : ByteOrder)
  | utf32 (order : ByteOrder)
  deriving DecidableEq, Repr

/-- The encoding of a text without a byte order mark. -/
def Encoding.ofZeros : List UInt8 → Encoding
  | 0 :: 0 :: _ :: _ :: _ => .utf32 .big
  | 0 :: _ :: _ :: _ :: _ => .utf16 .big
  | _ :: 0 :: 0 :: 0 :: _ => .utf32 .little
  | _ :: 0 :: _ :: _ :: _ => .utf16 .little
  | [0, _] => .utf16 .big
  | [_, 0] => .utf16 .little
  | _ => .utf8

/-- The encoding of a text, and its bytes without the mark. -/
def Encoding.detect : List UInt8 → Encoding × List UInt8
  | 0x00 :: 0x00 :: 0xfe :: 0xff :: rest => (.utf32 .big, rest)
  | 0xff :: 0xfe :: 0x00 :: 0x00 :: rest => (.utf32 .little, rest)
  | 0xfe :: 0xff :: rest => (.utf16 .big, rest)
  | 0xff :: 0xfe :: rest => (.utf16 .little, rest)
  | 0xef :: 0xbb :: 0xbf :: rest => (.utf8, rest)
  | bytes => (.ofZeros bytes, bytes)

/-- The number that two bytes make. -/
def ByteOrder.join (order : ByteOrder) (a b : Nat) : Nat :=
  match order with
  | .big => a * 256 + b
  | .little => b * 256 + a

/-- The units of two bytes; there are none when a byte is left over. -/
def units16? (order : ByteOrder) : List UInt8 → Option (List Nat)
  | [] => some []
  | [_] => none
  | a :: b :: rest => (units16? order rest).map (order.join a.toNat b.toNat :: ·)

/-- Joins the pairs of surrogates. -/
def joinPairs (standIn : Nat → Char) : List Nat → List Char
  | [] => []
  | [u] => [Text.charOfCode standIn u]
  | u :: v :: rest =>
    if 0xd800 ≤ u ∧ u < 0xdc00 ∧ 0xdc00 ≤ v ∧ v < 0xe000 then
      Char.ofNat (0x10000 + (u - 0xd800) * 0x400 + (v - 0xdc00)) :: joinPairs standIn rest
    else Text.charOfCode standIn u :: joinPairs standIn (v :: rest)

/-- The characters of four bytes each; there are none when bytes are left over or out of range. -/
def chars32? (standIn : Nat → Char) (order : ByteOrder) : List UInt8 → Option (List Char)
  | [] => some []
  | a :: b :: c :: d :: rest =>
    let code := match order with
      | .big => order.join a.toNat b.toNat * 65536 + order.join c.toNat d.toNat
      | .little => order.join c.toNat d.toNat * 65536 + order.join a.toNat b.toNat
    if code < 0x110000 then (chars32? standIn order rest).map (Text.charOfCode standIn code :: ·) else none
  | _ => none

/-- The characters that bytes encode. -/
def decodeText? (standIn : Nat → Char) (bytes : List UInt8) : Option (List Char) :=
  match Encoding.detect bytes with
  | (.utf8, bytes) => (Text.readUtf8 (some standIn) 0 [] bytes).toOption
  | (.utf16 order, bytes) => (units16? order bytes).map (joinPairs standIn)
  | (.utf32 order, bytes) => chars32? standIn order bytes

end QueryPlayground.Service
