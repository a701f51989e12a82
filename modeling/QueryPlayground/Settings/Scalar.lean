import QueryPlayground.Binary64.Conversion
import QueryPlayground.Json.Display
import QueryPlayground.Settings.Calendar
import QueryPlayground.Text.IntegerText

/-!
Scalars of settings: the values without parts. An integer of very many digits is a value like any other,
but it cannot be shown.
-/
namespace QueryPlayground

inductive Scalar where
  | null
  | bool (value : Bool)
  | int (value : Int)
  | float (value : Binary64)
  | str (value : String)
  | bytes (value : List UInt8)
  | date (value : Date)
  | instant (value : Instant)
  deriving DecidableEq, Repr, Inhabited

/-- What makes two keys the same: numbers that are equal, times at the same moment, and otherwise equal
values. What is not a number is the same only as itself, wherever the word for it stands or its one node is
used. -/
inductive KeyForm where
  | nan (place : Option Nat)
  | moment (microseconds : Int)
  | plain (value : Scalar)
  deriving DecidableEq, Repr

/-- One byte inside a quoted text. -/
def quotedByte (mark : Char) (b : UInt8) : List Char :=
  let c := Char.ofNat b.toNat
  if c = mark ∨ c = '\\' then ['\\', c]
  else if c = '\t' then ['\\', 't']
  else if c = '\n' then ['\\', 'n']
  else if c = '\r' then ['\\', 'r']
  else if 0x20 ≤ b.toNat ∧ b.toNat < 0x7f then [c]
  else '\\' :: 'x' :: Text.hexDigits 2 b.toNat

/-- Bytes as a quoted text with a `b` in front. -/
def quotedBytes (bytes : List UInt8) : List Char :=
  let mark := Text.quotationMark (bytes.map fun b => Char.ofNat b.toNat)
  'b' :: mark :: (bytes.flatMap (quotedByte mark) ++ [mark])

namespace Scalar

/-- The name of the kind of a scalar, as diagnostics give it. -/
def kindName : Scalar → String
  | .null => "NoneType"
  | .bool _ => "bool"
  | .int _ => "int"
  | .float _ => "float"
  | .str _ => "str"
  | .bytes _ => "bytes"
  | .date _ => "datetime.date"
  | .instant _ => "datetime.datetime"

/-- Null, false, zeros and empty texts count as false. -/
def isTruthy : Scalar → Bool
  | .null => false
  | .bool b => b
  | .int n => n != 0
  | .float x => !x.isZero
  | .str s => !s.isEmpty
  | .bytes b => !b.isEmpty
  | .date _ => true
  | .instant _ => true

/-- Whether a scalar can be shown: integers of too many digits cannot. -/
def isShowable : Scalar → Bool
  | .int n => Text.isWritable n
  | _ => true

/-- A scalar as a part of a larger display. -/
def shown : Scalar → List Char
  | .null => ['N', 'o', 'n', 'e']
  | .bool true => ['T', 'r', 'u', 'e']
  | .bool false => ['F', 'a', 'l', 's', 'e']
  | .int n => Json.writeInt n
  | .float x => x.text
  | .str s => Text.quotedChars s.toList
  | .bytes b => quotedBytes b
  | .date d => d.shown
  | .instant t => t.shown

/-- The display text of a scalar. -/
def displayChars : Scalar → List Char
  | .str s => s.toList
  | .date d => d.text
  | .instant t => t.text
  | v => v.shown

/-- The number that a scalar is or denotes. -/
def toNumber : Scalar → Except Binary64.ConversionFault Binary64
  | .float x => .ok x
  | .int n => Binary64.convertInt n
  | .bool b => .ok (Binary64.convertBool b)
  | .str s => Binary64.convertText s
  | .bytes b =>
    let plain := b.all fun x => x.toNat < 0x80
    match plain, Binary64.ofText? (b.map fun x => Char.ofNat x.toNat) with
    | true, some x => .ok x
    | _, _ => .error (.unreadable (String.ofList (quotedBytes b)))
  | v => .error (.wrongKind v.kindName)

/-- The form of a key; `place` is the place of what is not a number, unless it is the word. -/
def keyForm (place : Option Nat) : Scalar → KeyForm
  | .bool b => .plain (.int (if b then 1 else 0))
  | .float .nan => .nan place
  | .float x =>
    match x.isInteger, x.truncate? with
    | true, some n => .plain (.int n)
    | _, _ => .plain (.float x)
  | .instant time => time.moment?.elim (.plain (.instant time)) .moment
  | v => .plain v

/-- The form of a key whose place in a file does not matter. -/
def form (key : Scalar) : KeyForm := key.keyForm none

end Scalar
end QueryPlayground
