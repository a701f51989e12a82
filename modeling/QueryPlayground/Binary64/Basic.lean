/-!
Double-precision numbers as plain data. A finite number is a sign, a natural mantissa and a power of
two, so its value is exact and every operation can be stated over the integers. All rounding goes
through `Binary64.ofRatio`.
-/
namespace QueryPlayground

/-- A double-precision number. `finite negative m e` stands for `m * 2 ^ e`, negated when the flag is
set, so zero has two signs. -/
inductive Binary64 where
  | finite (negative : Bool) (mantissa : Nat) (exponent : Int)
  | infinite (negative : Bool)
  | nan
  deriving DecidableEq, Repr

namespace Binary64

/-- The least exponent of a finite number: the spacing of the subnormal numbers. -/
def minExponent : Int := -1074

/-- The greatest exponent of a finite number. -/
def maxExponent : Int := 971

/-- Mantissas have at most this many bits. -/
def precision : Nat := 53

def zero : Binary64 := .finite false 0 minExponent

instance : Inhabited Binary64 := ⟨zero⟩

/-- The natural number nearest to `num / den`; a value half way between two goes to the even one. -/
def nearestEven (num den : Nat) : Nat :=
  let q := num / den
  let r := num % den
  if 2 * r < den then q
  else if den < 2 * r then q + 1
  else if q % 2 = 0 then q else q + 1

/-- `num / den` scaled by `2 ^ (-e)`, as a pair of naturals. -/
def scaleDown (num den : Nat) (e : Int) : Nat × Nat :=
  if 0 ≤ e then (num, den * Nat.pow 2 e.toNat) else (num * Nat.pow 2 (-e).toNat, den)

/-- The greatest `k` with `2 ^ k ≤ num / den`, for positive `num` and `den`. -/
def floorLog2 (num den : Nat) : Int :=
  let k : Int := (num.log2 : Int) - (den.log2 : Int)
  let (a, b) := scaleDown num den k
  if b ≤ a then k else k - 1

/-- The double nearest to `num / den` for a positive `den`, ties to the even mantissa. A mantissa
that rounds up to a power of two moves to the next exponent; past the greatest exponent the result
is infinite. -/
def ofRatio (negative : Bool) (num den : Nat) : Binary64 :=
  if num = 0 then .finite negative 0 minExponent
  else
    let e := max minExponent (floorLog2 num den - (precision - 1))
    let (a, b) := scaleDown num den e
    let m := nearestEven a b
    let (m, e) := if m = Nat.pow 2 precision then (Nat.pow 2 (precision - 1), e + 1) else (m, e)
    if maxExponent < e then .infinite negative else .finite negative m e

/-- The double nearest to `m * 2 ^ e`. -/
def ofScaled (negative : Bool) (m : Nat) (e : Int) : Binary64 :=
  if 0 ≤ e then ofRatio negative (m * Nat.pow 2 e.toNat) 1 else ofRatio negative m (Nat.pow 2 (-e).toNat)

/-- The double nearest to an integer; infinite when the integer is out of range. -/
def ofInt (n : Int) : Binary64 := ofRatio (n < 0) n.natAbs 1

def isFinite : Binary64 → Bool
  | .finite .. => true
  | _ => false

def isNaN : Binary64 → Bool
  | .nan => true
  | _ => false

/-- Both zeros, whatever their sign. -/
def isZero : Binary64 → Bool
  | .finite _ m _ => m == 0
  | _ => false

/-- The sign of a number together with its magnitude. -/
def signed (negative : Bool) (m : Nat) : Int := if negative then -(m : Int) else m

end Binary64
end QueryPlayground
