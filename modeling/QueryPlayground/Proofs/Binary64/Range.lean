import Mathlib.Algebra.Group.Nat.Defs
import QueryPlayground.Binary64.Conversion
import QueryPlayground.Binary64.Arithmetic

/-! Which integers are in the range of doubles, and which doubles are positive. An integer is out of range
from the middle between the greatest double and the next power of two on, because that middle is rounded up.
What does not lie at or below zero is positive or no number. -/
namespace QueryPlayground.Binary64

/-! ### Rounding to a whole number -/

/-- What is left of a quotient decides whether it is rounded up. -/
theorem nearestEven_cases (num den : Nat) :
    nearestEven num den = num / den ∧ (2 * (num % den) < den ∨ 2 * (num % den) = den ∧ num / den % 2 = 0) ∨
      nearestEven num den = num / den + 1 ∧
        (den < 2 * (num % den) ∨ 2 * (num % den) = den ∧ num / den % 2 = 1) := by
  unfold nearestEven
  dsimp only
  split
  next => omega
  next =>
      split
      next => omega
      next =>
          split
          next => omega
          next => omega

/-- Rounding goes above an odd number just from the middle behind it on, which goes to the even neighbour. -/
theorem lt_nearestEven_iff_of_odd {num den k : Nat} (hDen : 0 < den) (hOdd : k % 2 = 1) :
    k < nearestEven num den ↔ (2 * k + 1) * den ≤ 2 * num := by
  have hSplit : den * (num / den) + num % den = num := Nat.div_add_mod num den
  have hRest : num % den < den := Nat.mod_lt num hDen
  have hMiddle : (2 * k + 1) * den = 2 * (den * k) + den := by
    rw [Nat.succ_mul, Nat.mul_assoc, Nat.mul_comm k den]
  have hCases := nearestEven_cases num den
  rw [hMiddle]
  generalize num / den = q at *
  generalize num % den = r at *
  rcases Nat.lt_trichotomy k q with hLess | rfl | hGreater
  · have hStep : den * k + den ≤ den * q := Nat.mul_le_mul_left den hLess
    omega
  · omega
  · have hStep : den * q + den ≤ den * k := Nat.mul_le_mul_left den hGreater
    omega

theorem nearestEven_le (num den : Nat) : nearestEven num den ≤ num / den + 1 := by
  have hCases := nearestEven_cases num den
  omega

/-! ### The range of integers -/

theorem floorLog2_one {n : Nat} (hn : n ≠ 0) : floorLog2 n 1 = n.log2 := by
  have hExponent : (n.log2 : Int) - (Nat.log2 1 : Int) = n.log2 := Int.sub_zero _
  have hScale : scaleDown n 1 (n.log2 : Int) = (n, 1 * Nat.pow 2 n.log2) := by
    simp [scaleDown]
  have hLow : 1 * Nat.pow 2 n.log2 ≤ n := by
    rw [Nat.one_mul]
    exact Nat.log2_self_le hn
  simp only [floorLog2, hExponent, hScale, if_pos hLow]

/-- Below a power of two, a mantissa is rounded up to it just from the middle behind the greatest one on. -/
theorem nearestEven_eq_top_iff {n e : Nat} (hn : n < 2 ^ (e + 54)) :
    nearestEven n (2 ^ (e + 1)) = 2 ^ 53 ↔ (2 ^ 54 - 1) * 2 ^ e ≤ n := by
  have hPower : 2 ^ (e + 54) = 2 ^ 53 * 2 ^ (e + 1) := by
    rw [← Nat.pow_add]
    congr 1
    omega
  have hHalf : 2 ^ (e + 1) = 2 * 2 ^ e := Nat.pow_succ'
  have hQuotient : n / 2 ^ (e + 1) < 2 ^ 53 := by
    rw [Nat.div_lt_iff_lt_mul (Nat.two_pow_pos _), ← hPower]
    exact hn
  have hMost : nearestEven n (2 ^ (e + 1)) ≤ 2 ^ 53 := Nat.le_trans (nearestEven_le _ _) hQuotient
  have hAbove : 2 ^ 53 - 1 < nearestEven n (2 ^ (e + 1)) ↔ (2 * (2 ^ 53 - 1) + 1) * 2 ^ (e + 1) ≤ 2 * n :=
    lt_nearestEven_iff_of_odd (Nat.two_pow_pos _) (by decide)
  rw [hHalf] at hAbove hMost ⊢
  omega

/-- A quotient is in range as long as its exponent is, once a mantissa that was rounded up is moved over. -/
theorem isFinite_ofRatio_iff {negative : Bool} {num den m : Nat} {e : Int} (hNum : num ≠ 0)
    (hExponent : max minExponent (floorLog2 num den - 52) = e)
    (hMantissa : nearestEven (scaleDown num den e).1 (scaleDown num den e).2 = m) :
    (ofRatio negative num den).isFinite = true ↔ e < 971 ∨ e = 971 ∧ m ≠ 2 ^ 53 := by
  have hBits : (precision : Int) - 1 = 52 := rfl
  have hMost : maxExponent = 971 := rfl
  unfold ofRatio
  rw [if_neg hNum]
  dsimp only
  rw [hBits, hExponent, hMantissa]
  by_cases hTop : m = 2 ^ 53
  · have hSame : m = Nat.pow 2 precision := hTop
    rw [if_pos hSame]
    dsimp only
    split <;> simp only [isFinite, Bool.false_eq_true, true_iff, false_iff] <;> omega
  · have hOther : m ≠ Nat.pow 2 precision := hTop
    rw [if_neg hOther]
    dsimp only
    split <;> simp only [isFinite, Bool.false_eq_true, true_iff, false_iff] <;> omega

/-- From here on integers are out of range: the middle between the greatest double and the next power of
two. -/
def rangeBound : Nat := (2 ^ 54 - 1) * 2 ^ 970

/-- An integer is in range just below the bound. -/
theorem isFinite_ofInt_iff (n : Int) : (ofInt n).isFinite = true ↔ n.natAbs < rangeBound := by
  -- The exponent is kept apart from its value, so that no power of it is ever computed.
  obtain ⟨e, hLast⟩ : ∃ e : Nat, e = 970 := ⟨970, rfl⟩
  rw [ofInt, rangeBound, ← hLast]
  generalize n.natAbs = n
  have hPositive : 0 < 2 ^ e := Nat.two_pow_pos e
  by_cases hn : n = 0
  · subst hn
    exact ⟨fun _ => by omega, fun _ => rfl⟩
  · have hLow : 2 ^ n.log2 ≤ n := Nat.log2_self_le hn
    have hHigh : n < 2 ^ (n.log2 + 1) := Nat.lt_log2_self
    have hExponent : max minExponent (floorLog2 n 1 - 52) = n.log2 - 52 := by
      rw [floorLog2_one hn]
      simp only [minExponent]
      omega
    rw [isFinite_ofRatio_iff hn hExponent rfl]
    rcases Nat.lt_trichotomy n.log2 (e + 53) with hLess | hEqual | hGreater
    · have hPower : 2 ^ (n.log2 + 1) ≤ 2 ^ (e + 53) := Nat.pow_le_pow_right (by decide) hLess
      rw [Nat.pow_add 2 e 53] at hPower
      omega
    · rw [hEqual] at hHigh ⊢
      have hScale : scaleDown n 1 (((e + 53 : Nat) : Int) - 52) = (n, 2 ^ (e + 1)) := by
        have hShift : ((e + 53 : Nat) : Int) - 52 = (e + 1 : Nat) := by omega
        rw [hShift, scaleDown, if_pos (Int.natCast_nonneg _), Nat.one_mul]
        rfl
      rw [hScale, ne_eq, nearestEven_eq_top_iff hHigh]
      omega
    · have hPower : 2 ^ (e + 54) ≤ 2 ^ n.log2 := Nat.pow_le_pow_right (by decide) hGreater
      rw [Nat.pow_add 2 e 54] at hPower
      omega

/-- The conversion of an integer fails just from the bound on. -/
theorem convertInt_eq_tooLarge_iff (n : Int) :
    convertInt n = .error .tooLarge ↔ rangeBound ≤ n.natAbs := by
  have hConvert : convertInt n = if (ofInt n).isFinite then .ok (ofInt n) else .error .tooLarge := rfl
  rw [hConvert, ← Nat.not_lt, ← isFinite_ofInt_iff]
  split
  next hFinite => simp [hFinite]
  next hInfinite => simp [hInfinite]

/-! ### Positive numbers -/

theorem mul_two_pow_pos_iff (a : Int) (k : Nat) : 0 < a * Int.pow 2 k ↔ 0 < a := by
  have hPower : (0 : Int) < Int.pow 2 k := Int.pow_pos (by decide)
  constructor
  case mp =>
      intro hProduct
      exact Int.pos_of_mul_pos_left hProduct hPower
  case mpr =>
      intro hPositive
      exact Int.mul_pos hPositive hPower

/-- A finite number is positive just if its mantissa is, with its sign. -/
theorem zero_lt_finite_iff (s : Bool) (m : Nat) (e : Int) :
    lt zero (.finite s m e) = true ↔ 0 < signed s m := by
  have hZero : signed false 0 = 0 := rfl
  simp only [lt, zero, aligned, hZero, Int.zero_mul, decide_eq_true_eq]
  exact mul_two_pow_pos_iff _ _

/-- What is not found to be zero or less is positive, or it is no number. -/
theorem le_zero_eq_false_iff (x : Binary64) : x.le zero = false ↔ lt zero x = true ∨ x = .nan := by
  cases x with
  | nan => simp [le, lt, eqv]
  | infinite s => cases s <;> simp [le, lt, eqv, zero]
  | finite s m e =>
      have hZero : signed false 0 = 0 := rfl
      have hSign : 0 < signed s m * Int.pow 2 (e - min e minExponent).toNat ↔ 0 < signed s m :=
        mul_two_pow_pos_iff _ _
      rw [zero_lt_finite_iff]
      simp only [le, lt, eqv, zero, aligned, hZero, Int.zero_mul, Bool.or_eq_false_iff,
        decide_eq_false_iff_not, reduceCtorEq, or_false]
      omega

end QueryPlayground.Binary64
