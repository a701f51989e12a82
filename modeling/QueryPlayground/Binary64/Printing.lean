import QueryPlayground.Binary64.Arithmetic

/-!
Decimal texts of double-precision numbers: the shortest text that reads back, and the text with two
places. Both work on the exact value.
-/
namespace QueryPlayground.Binary64

/-- A positive decimal number `0.d₁d₂… * 10 ^ point`, its digits held as one natural number. -/
structure Digits where
  value : Nat
  point : Int
  deriving DecidableEq, Repr

/-- The power of ten just above a positive ratio: `10 ^ (k - 1) ≤ num / den < 10 ^ k`. Every double
is at least `10 ^ (-400)`, so the digits of the ratio scaled by `10 ^ 400` give it. -/
def decimalPoint (num den : Nat) : Int :=
  ((Nat.toDigits 10 (num * Nat.pow 10 400 / den)).length : Int) - 400

/-- The decimal with `count` digits nearest to the value `v / d`, among the two neighbours of the
value on that grid that lie between `lo / d` and `hi / d`, the ends counting when `closed`. -/
def onGrid? (v lo hi d : Nat) (closed : Bool) (point : Int) (count : Nat) : Option Nat :=
  let step := point - count
  let (unit, d) := if 0 ≤ step then (Nat.pow 10 step.toNat, d) else (1, d)
  let scale := if 0 ≤ step then 1 else Nat.pow 10 (-step).toNat
  let value := v * scale
  let grid := unit * d
  let inside (x : Nat) : Bool :=
    let y := x * grid
    if closed then lo * scale ≤ y && y ≤ hi * scale else lo * scale < y && y < hi * scale
  let below := value / grid
  let above := below + 1
  match inside below, inside above with
  | false, false => none
  | true, false => some below
  | false, true => some above
  | true, true =>
    let down := value - below * grid
    let up := above * grid - value
    if down < up then some below
    else if up < down then some above
    else if below % 2 = 0 then some below else some above

/-- Drops the zeros at the end of a positive number. -/
def dropZeros : Nat → Nat → Nat
  | 0, n => n
  | fuel + 1, n => if n ≠ 0 ∧ n % 10 = 0 then dropZeros fuel (n / 10) else n

/-- The fewest digits that read back as `m * 2 ^ e`, for a positive mantissa. The numbers that round
to it reach half way to its neighbours, and the lower neighbour of a power of two is half as far. -/
def shortest (m : Nat) (e : Int) : Digits :=
  let low := if m = Nat.pow 2 (precision - 1) ∧ minExponent < e then 4 * m - 1 else 4 * m - 2
  let high := 4 * m + 2
  let shift := e - 2
  let up := if 0 ≤ shift then Nat.pow 2 shift.toNat else 1
  let den := if 0 ≤ shift then 1 else Nat.pow 2 (-shift).toNat
  let v := 4 * m * up
  let lo := low * up
  let hi := high * up
  let point := decimalPoint v den
  let found := (List.range 17).findSome? fun n =>
    (onGrid? v lo hi den (m % 2 = 0) point (n + 1)).map fun x => (x, n + 1)
  match found with
  | some (x, count) =>
    let point := if x = Nat.pow 10 count then point + 1 else point
    ⟨dropZeros 18 x, point⟩
  | none => ⟨0, 0⟩

/-- Numbers of magnitude from `10 ^ (-4)` below `10 ^ 16` are written out in full, all others with
an exponent of at least two digits. -/
def layout (digits : List Char) (point : Int) : List Char :=
  if -4 < point ∧ point ≤ 16 then
    if point ≤ 0 then '0' :: '.' :: (List.replicate (-point).toNat '0' ++ digits)
    else if (digits.length : Int) ≤ point then
      digits ++ List.replicate (point.toNat - digits.length) '0' ++ ['.', '0']
    else digits.take point.toNat ++ '.' :: digits.drop point.toNat
  else
    let head := match digits with
      | [] => []
      | [d] => [d]
      | d :: rest => d :: '.' :: rest
    let power := point - 1
    let size := Nat.toDigits 10 power.natAbs
    head ++ 'e' :: (if power < 0 then '-' else '+') ::
      (if size.length < 2 then '0' :: size else size)

def signText (negative : Bool) : List Char := if negative then ['-'] else []

/-- The shortest text that reads back, with `.0` on whole numbers. -/
def text : Binary64 → List Char
  | .nan => ['n', 'a', 'n']
  | .infinite s => signText s ++ ['i', 'n', 'f']
  | .finite s m e =>
    if m = 0 then signText s ++ ['0', '.', '0']
    else
      let digits := shortest m e
      signText s ++ layout (Nat.toDigits 10 digits.value) digits.point

/-- Two digits, for a number below one hundred. -/
def twoDigits (n : Nat) : List Char :=
  Nat.toDigits 10 (n / 10 % 10) ++ Nat.toDigits 10 (n % 10)

/-- The magnitude in hundredths, to the nearest, a half going to the even one. -/
def hundredths (m : Nat) (e : Int) : Nat :=
  if 0 ≤ e then m * Nat.pow 2 e.toNat * 100 else nearestEven (m * 100) (Nat.pow 2 (-e).toNat)

/-- The text with exactly two places. -/
def fixedTwo : Binary64 → List Char
  | .nan => ['n', 'a', 'n']
  | .infinite s => signText s ++ ['i', 'n', 'f']
  | .finite s m e =>
    let q := hundredths m e
    signText s ++ Nat.toDigits 10 (q / 100) ++ '.' :: twoDigits (q % 100)

instance : ToString Binary64 := ⟨fun x => String.ofList x.text⟩

end QueryPlayground.Binary64
