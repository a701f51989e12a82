/-!
Reading base 64. Characters outside the alphabet are passed over. Four characters give three bytes, and
marks of padding after the second or third character of four end the text.
-/
namespace QueryPlayground.Text

/-- The six bits of a character of the alphabet. -/
def sixBits? (c : Char) : Option Nat :=
  let n := c.toNat
  if 'A' ≤ c ∧ c ≤ 'Z' then some (n - 65)
  else if 'a' ≤ c ∧ c ≤ 'z' then some (n - 71)
  else if '0' ≤ c ∧ c ≤ '9' then some (n + 4)
  else if c = '+' then some 62
  else if c = '/' then some 63
  else none

/-- Reads characters. `count` of the present four have been read, `pads` marks of padding came after
them, and `left` holds the bits that make no byte yet. -/
def readBase64 (count pads left : Nat) : List Char → Option (List UInt8)
  | [] => if count = 0 then some [] else none
  | c :: rest =>
    if c = '=' then
      if 2 ≤ count ∧ 4 ≤ count + pads + 1 then some []
      else readBase64 count (if 2 ≤ count then pads + 1 else pads) left rest
    else
      match sixBits? c with
      | none => readBase64 count pads left rest
      | some bits =>
        match count with
        | 0 => readBase64 1 0 bits rest
        | 1 => (readBase64 2 0 (bits % 16) rest).map ((4 * left + bits / 16).toUInt8 :: ·)
        | 2 => (readBase64 3 0 (bits % 4) rest).map ((16 * left + bits / 4).toUInt8 :: ·)
        | _ => (readBase64 0 0 0 rest).map ((64 * left + bits).toUInt8 :: ·)

/-- The bytes of a text in base 64. -/
def ofBase64? (s : List Char) : Option (List UInt8) := readBase64 0 0 0 s

end QueryPlayground.Text
