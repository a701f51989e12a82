import Mathlib.Algebra.Order.Field.Basic
import Mathlib.Algebra.Order.Field.Power
import Mathlib.Algebra.Order.Ring.Rat
import Mathlib.Tactic.FieldSimp
import Mathlib.Tactic.Linarith
import Mathlib.Tactic.Ring
import QueryPlayground.Binary64.Printing
import QueryPlayground.Proofs.Binary64.Range

/-! Exact values, and the multiple of a unit that is nearest to a value. The nearest multiple is told by what
is left over: at most half a unit, and just half of one only next to an even number. So it does not go down
when the value goes up. -/
namespace QueryPlayground.Binary64

/-- The value of a finite number. Infinities and NaN have none, and count as zero. -/
def value : Binary64 → ℚ
  | .finite s m e => signed s m * 2 ^ e
  | _ => 0

theorem signed_pos_iff (s : Bool) (m : Nat) : 0 < signed s m ↔ s = false ∧ m ≠ 0 := by
  cases s with
  | false => simp [signed, Nat.pos_iff_ne_zero]
  | true => simp [signed]

theorem abs_signed (s : Bool) (m : Nat) : |(signed s m : ℚ)| = m := by
  cases s <;> simp [signed]

theorem two_zpow_pos (e : Int) : (0 : ℚ) < 2 ^ e := zpow_pos zero_lt_two e

theorem two_zpow_of_nonneg {e : Int} (h : 0 ≤ e) : (2 : ℚ) ^ e = (Nat.pow 2 e.toNat : Nat) := by
  obtain ⟨k, rfl⟩ := Int.eq_ofNat_of_zero_le h
  rw [Int.toNat_natCast, Nat.pow_eq, zpow_natCast, Nat.cast_pow, Nat.cast_ofNat]

theorem two_zpow_of_nonpos {e : Int} (h : e ≤ 0) : (2 : ℚ) ^ e = 1 / (Nat.pow 2 (-e).toNat : Nat) := by
  rw [← two_zpow_of_nonneg (Int.neg_nonneg_of_nonpos h), zpow_neg, one_div, inv_inv]

theorem two_zpow_add_one (e : Int) : (2 : ℚ) ^ (e + 1) = 2 * 2 ^ e := by
  rw [zpow_add_one₀ two_ne_zero, mul_comm]

theorem two_zpow_le {e f : Int} (h : e ≤ f) : (2 : ℚ) ^ e ≤ 2 ^ f :=
  zpow_le_zpow_right₀ one_le_two h

theorem two_pow_mul_two_zpow (k : Nat) (e : Int) : (2 : ℚ) ^ k * 2 ^ e = 2 ^ (k + e) := by
  rw [zpow_add₀ two_ne_zero, zpow_natCast]

/-! ### Nearest multiples -/

/-- The multiple `n * unit` is the one nearest to `v`; of two that are equally near, `n` is the even one. -/
def IsNearest (unit v : ℚ) (n : Int) : Prop :=
  ∀ k : Int, k ≠ n → |v - n * unit| < |v - k * unit| ∨ |v - n * unit| = |v - k * unit| ∧ Even n

variable {unit v w : ℚ} {m n : Int}

/-- A multiple of the unit is the one nearest to itself. -/
theorem isNearest_self (hUnit : 0 < unit) (n : Int) : IsNearest unit (n * unit) n := by
  intro k hk
  rw [sub_self, abs_zero, abs_pos, sub_ne_zero]
  refine Or.inl fun hSame => hk ?_
  exact_mod_cast (mul_right_cancel₀ hUnit.ne' hSame).symm

/-- Over the nearest multiple at most half a unit is left. -/
theorem isNearest_of_half (hUnit : 0 < unit) (hHalf : 2 * |v - n * unit| ≤ unit)
    (hTie : 2 * |v - n * unit| = unit → Even n) : IsNearest unit v n := by
  intro k hk
  -- Two multiples of the unit are a unit apart.
  have hApart : unit ≤ |v - n * unit| + |v - k * unit| := by
    have hStep : (1 : ℚ) ≤ |(k : ℚ) - n| := by exact_mod_cast Int.one_le_abs (sub_ne_zero.mpr hk)
    calc unit ≤ |(k : ℚ) - n| * unit := le_mul_of_one_le_left hUnit.le hStep
      _ = |((k : ℚ) - n) * unit| := by rw [abs_mul, abs_of_pos hUnit]
      _ = |(v - n * unit) - (v - k * unit)| := by congr 1; ring
      _ ≤ |v - n * unit| + |v - k * unit| := abs_sub _ _
  rcases lt_or_eq_of_le hHalf with hLess | hTied
  · exact Or.inl (by linarith)
  · have hFar : |v - n * unit| ≤ |v - k * unit| := by linarith
    exact (lt_or_eq_of_le hFar).imp_right fun hSame => ⟨hSame, hTie hTied⟩

namespace IsNearest

theorem abs_le (h : IsNearest unit v n) (k : Int) : |v - n * unit| ≤ |v - k * unit| := by
  rcases eq_or_ne k n with rfl | hk
  · exact le_rfl
  · exact (h k hk).elim le_of_lt fun hTie => le_of_eq hTie.1

theorem two_mul_abs_le (hUnit : 0 < unit) (h : IsNearest unit v n) : 2 * |v - n * unit| ≤ unit := by
  have hAbove := h.abs_le (n + 1)
  have hBelow := h.abs_le (n - 1)
  push_cast at hAbove hBelow
  rcases abs_cases (v - n * unit) with ⟨hAbs, hSign⟩ | ⟨hAbs, hSign⟩ <;> rw [hAbs] at hAbove hBelow ⊢
  · rcases abs_cases (v - (n + 1) * unit) with ⟨hNext, _⟩ | ⟨hNext, _⟩ <;> rw [hNext] at hAbove <;> linarith
  · rcases abs_cases (v - (n - 1) * unit) with ⟨hNext, _⟩ | ⟨hNext, _⟩ <;> rw [hNext] at hBelow <;> linarith

theorem even_of_tie (h : IsNearest unit v n) {k : Int} (hk : k ≠ n)
    (hTie : |v - n * unit| = |v - k * unit|) : Even n :=
  (h k hk).elim (fun hLess => absurd hTie hLess.ne) And.right

/-- The nearest multiple is above an odd one just from the middle behind that one on. -/
theorem lt_iff_of_odd (hUnit : 0 < unit) (h : IsNearest unit v n) {k : Int} (hOdd : Odd k) :
    k < n ↔ (2 * k + 1) * unit ≤ 2 * v := by
  have hHalf := h.two_mul_abs_le hUnit
  constructor
  · intro hAbove
    have hStep : (k + 1 : ℚ) * unit ≤ n * unit :=
      mul_le_mul_of_nonneg_right (by exact_mod_cast hAbove) hUnit.le
    linarith [neg_abs_le (v - n * unit)]
  · intro hMiddle
    by_contra hBelow
    have hStep : (n : ℚ) * unit ≤ k * unit :=
      mul_le_mul_of_nonneg_right (by exact_mod_cast not_lt.mp hBelow) hUnit.le
    have hValue : v = k * unit + unit / 2 := by linarith [le_abs_self (v - n * unit)]
    have hSame : n * unit = k * unit := by linarith [le_abs_self (v - n * unit)]
    have hn : n = k := by exact_mod_cast mul_right_cancel₀ hUnit.ne' hSame
    have hTie : |v - n * unit| = |v - (k + 1 : Int) * unit| := by
      rw [hSame, hValue, abs_of_nonneg (by linarith), abs_of_nonpos (by push_cast; linarith)]
      push_cast
      ring
    exact Int.not_even_iff_odd.mpr hOdd (hn ▸ h.even_of_tie (by omega) hTie)

/-- The nearest multiple does not go down when the value goes up. -/
theorem mono (hUnit : 0 < unit) (hv : IsNearest unit v m) (hw : IsNearest unit w n) (h : v ≤ w) : m ≤ n := by
  by_contra hBelow
  have hStep : (n : ℚ) + 1 ≤ m := by exact_mod_cast Int.not_le.mp hBelow
  have hLow : -unit ≤ 2 * (v - m * unit) := by
    linarith [neg_abs_le (v - m * unit), hv.two_mul_abs_le hUnit]
  have hHigh : 2 * (w - n * unit) ≤ unit := by
    linarith [le_abs_self (w - n * unit), hw.two_mul_abs_le hUnit]
  have hStepUnit : n * unit + unit ≤ m * unit := by nlinarith
  -- Only the middle between two neighbours is left, and both of them would be even.
  have hMiddle : v = n * unit + unit / 2 := by linarith
  have hNeighbour : m * unit = n * unit + unit := by linarith
  have hSame : v = w := by linarith
  have hm : m = n + 1 := by
    have hCast : (m : ℚ) = n + 1 := by
      apply mul_right_cancel₀ hUnit.ne'
      linarith
    exact_mod_cast hCast
  have hTie : |v - m * unit| = |v - n * unit| := by
    rw [hNeighbour, hMiddle, abs_of_nonpos (by linarith), abs_of_nonneg (by linarith)]
    ring
  have hEvenAbove : Even m := hv.even_of_tie (by omega) hTie
  have hEvenBelow : Even n := hw.even_of_tie (by omega) (hSame ▸ hTie.symm)
  rw [Int.even_iff] at hEvenAbove hEvenBelow
  omega

end IsNearest

/-! ### Rounding to a whole number -/

/-- A quotient is rounded to the whole number nearest to it. -/
theorem isNearest_nearestEven {num den : Nat} (hDen : 0 < den) (hUnit : 0 < unit) :
    IsNearest unit (num / den * unit) (nearestEven num den) := by
  have hDenPos : (0 : ℚ) < den := by exact_mod_cast hDen
  -- What is left over, in parts of the denominator.
  obtain ⟨rest, hRest, hHalf, hTie⟩ : ∃ rest : Int, (num : Int) - den * nearestEven num den = rest ∧
      2 * |rest| ≤ den ∧ (2 * |rest| = den → Even (nearestEven num den : Int)) := by
    have hSplit : (den : Int) * (num / den : Nat) + (num % den : Nat) = num := by
      exact_mod_cast Nat.div_add_mod num den
    have hLess : num % den < den := Nat.mod_lt num hDen
    rcases nearestEven_cases num den with ⟨hDown, hLeft⟩ | ⟨hUp, hLeft⟩
    · refine ⟨(num % den : Nat), by rw [hDown]; linarith, ?_⟩
      rw [Nat.abs_cast, Int.even_iff, hDown]
      omega
    · refine ⟨(num % den : Nat) - den, by rw [hUp, Nat.cast_add, Nat.cast_one]; linarith, ?_⟩
      rw [abs_of_nonpos (by omega), Int.even_iff, hUp]
      omega
  have hOff : 2 * |num / den * unit - (nearestEven num den : Int) * unit| = (2 * |rest| : Int) / den * unit := by
    have hQuotient : num / den * unit - (nearestEven num den : Int) * unit = rest / den * unit := by
      rw [← hRest]
      push_cast
      field_simp
    rw [hQuotient, abs_mul, abs_div, abs_of_pos hUnit, abs_of_pos hDenPos]
    push_cast
    ring
  refine isNearest_of_half hUnit ?_ ?_
  · rw [hOff]
    refine mul_le_of_le_one_left hUnit.le ((div_le_one hDenPos).mpr ?_)
    exact_mod_cast hHalf
  · intro hSame
    rw [hOff, mul_eq_right₀ hUnit.ne', div_eq_one_iff_eq hDenPos.ne'] at hSame
    exact hTie (by exact_mod_cast hSame)

/-- The hundredths of a magnitude are the nearest ones. -/
theorem isNearest_hundredths (m : Nat) (e : Int) : IsNearest (1 / 100) (m * 2 ^ e) (hundredths m e) := by
  have hUnit : (0 : ℚ) < 1 / 100 := by norm_num
  unfold hundredths
  split
  next hExponent =>
      have hValue : (m * 2 ^ e : ℚ) = ((m * Nat.pow 2 e.toNat * 100 : Nat) : Int) * (1 / 100) := by
        rw [two_zpow_of_nonneg hExponent]
        push_cast
        ring
      rw [hValue]
      exact isNearest_self hUnit _
  next hExponent =>
      have hValue : (m * 2 ^ e : ℚ) = (m * 100 : Nat) / (Nat.pow 2 (-e).toNat : Nat) * (1 / 100) := by
        rw [two_zpow_of_nonpos (by omega)]
        push_cast
        ring
      rw [hValue]
      exact isNearest_nearestEven (Nat.two_pow_pos _) hUnit

end QueryPlayground.Binary64
