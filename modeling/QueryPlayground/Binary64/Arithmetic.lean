import QueryPlayground.Binary64.Basic

/-!
Arithmetic and order on double-precision numbers. Sums and products are formed exactly and rounded
once; comparisons are exact, and nothing compares with a NaN.
-/
namespace QueryPlayground.Binary64

def neg : Binary64 → Binary64
  | .finite s m e => .finite (!s) m e
  | .infinite s => .infinite (!s)
  | .nan => .nan

/-- Two finite numbers as integers on one common exponent. -/
def aligned (s : Bool) (m : Nat) (e : Int) (t : Bool) (n : Nat) (f : Int) : Int × Int × Int :=
  let low := min e f
  (signed s m * Int.pow 2 (e - low).toNat, signed t n * Int.pow 2 (f - low).toNat, low)

/-- The exact sum, rounded once. An exact zero is positive unless both operands are negative. -/
def add : Binary64 → Binary64 → Binary64
  | .nan, _ => .nan
  | _, .nan => .nan
  | .infinite s, .infinite t => if s = t then .infinite s else .nan
  | .infinite s, _ => .infinite s
  | _, .infinite t => .infinite t
  | .finite s m e, .finite t n f =>
    let (a, b, low) := aligned s m e t n f
    let sum := a + b
    if sum = 0 then .finite (s && t) 0 minExponent
    else ofScaled (sum < 0) sum.natAbs low

def sub (x y : Binary64) : Binary64 := add x (neg y)

/-- The exact product, rounded once. -/
def mul : Binary64 → Binary64 → Binary64
  | .nan, _ => .nan
  | _, .nan => .nan
  | .infinite s, .infinite t => .infinite (s != t)
  | .infinite s, .finite t n _ => if n = 0 then .nan else .infinite (s != t)
  | .finite s m _, .infinite t => if m = 0 then .nan else .infinite (s != t)
  | .finite s m e, .finite t n f => ofScaled (s != t) (m * n) (e + f)

/-- The exact quotient, rounded once. -/
def div : Binary64 → Binary64 → Binary64
  | .nan, _ => .nan
  | _, .nan => .nan
  | .infinite _, .infinite _ => .nan
  | .infinite s, .finite t _ _ => .infinite (s != t)
  | .finite s _ _, .infinite t => .finite (s != t) 0 minExponent
  | .finite s m e, .finite t n f =>
    if n = 0 then (if m = 0 then .nan else .infinite (s != t))
    else
      let k := e - f
      if 0 ≤ k then ofRatio (s != t) (m * Nat.pow 2 k.toNat) n
      else ofRatio (s != t) m (n * Nat.pow 2 (-k).toNat)

/-- Strict order of values. -/
def lt : Binary64 → Binary64 → Bool
  | .nan, _ => false
  | _, .nan => false
  | .infinite s, .infinite t => s && !t
  | .infinite s, .finite .. => s
  | .finite .., .infinite t => !t
  | .finite s m e, .finite t n f =>
    let (a, b, _) := aligned s m e t n f
    decide (a < b)

/-- Equality of values: the two zeros agree, and a NaN differs from everything. -/
def eqv : Binary64 → Binary64 → Bool
  | .nan, _ => false
  | _, .nan => false
  | .infinite s, .infinite t => s == t
  | .infinite _, .finite .. => false
  | .finite .., .infinite _ => false
  | .finite s m e, .finite t n f =>
    let (a, b, _) := aligned s m e t n f
    decide (a = b)

def le (x y : Binary64) : Bool := lt x y || eqv x y

/-- The number itself when it is positive, else zero; a NaN counts as zero. -/
def clampToZero (x : Binary64) : Binary64 := if lt zero x then x else zero

/-- Infinities and NaN are no integers. -/
def isInteger : Binary64 → Bool
  | .finite _ m e => 0 ≤ e || m % Nat.pow 2 (-e).toNat == 0
  | _ => false

/-- The integer part, toward zero. -/
def truncate? : Binary64 → Option Int
  | .finite s m e => some (signed s (if 0 ≤ e then m * Nat.pow 2 e.toNat else m / Nat.pow 2 (-e).toNat))
  | _ => none

instance : Add Binary64 := ⟨add⟩
instance : Sub Binary64 := ⟨sub⟩
instance : Mul Binary64 := ⟨mul⟩
instance : Div Binary64 := ⟨div⟩
instance : Neg Binary64 := ⟨neg⟩

end QueryPlayground.Binary64
