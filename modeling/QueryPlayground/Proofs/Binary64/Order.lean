import QueryPlayground.Proofs.Binary64.Rounding

/-! Order. Two doubles with even mantissas have another one between them, so the nearest double does not go down
when the value goes up, not even where two are equally near. With the infinities at the ends this holds out of
range too, and for products with a positive number. -/
namespace QueryPlayground.Binary64

variable {v w : ℚ} {x y z : Binary64}

/-! ### Nearest doubles -/

/-- Behind a double that is not negative and has an even mantissa comes one with an odd mantissa, before there is
another one with an even mantissa. -/
theorem exists_double_behind (hx : IsDouble x) (hy : IsDouble y) (hEvenX : Even x.mantissa)
    (hEvenY : Even y.mantissa) (hNonneg : 0 ≤ x.value) (h : x.value < y.value) :
    ∃ z, IsDouble z ∧ x.value < z.value ∧ z.value < y.value := by
  cases hx with
  | @finite negative m e hMantissa hFull hLeast hGreatest =>
      have hPlace : (0 : ℚ) < 2 ^ e := two_zpow_pos e
      have hValue : (finite negative m e).value = m * 2 ^ e := by
        cases negative with
        | false => simp [value, signed]
        | true =>
            have hZero : (m : ℚ) * 2 ^ e ≤ 0 := by simpa [value, signed] using hNonneg
            have hSame : (m : ℚ) * 2 ^ e = 0 := le_antisymm hZero (by positivity)
            simp [value, signed, hSame]
      have hNext : (finite false (m + 1) e).value = (m + 1) * 2 ^ e := by simp [value, signed]
      rw [hValue] at h ⊢
      rw [mantissa, Nat.even_iff] at hEvenX
      refine ⟨finite false (m + 1) e, .finite (by omega) (hFull.imp_left (by omega)) hLeast hGreatest, ?_, ?_⟩
      · rw [hNext]
        linarith
      · rcases hy.multiple_or_below e with ⟨k, hMultiple, hParity⟩ | ⟨hHigher, hBelow⟩
        · rw [hMultiple] at h
          rw [hNext, hMultiple]
          have hLess : (m : Int) < k := by exact_mod_cast lt_of_mul_lt_mul_right h hPlace.le
          have hEven : k % 2 = 0 := Int.even_iff.mp (hParity hEvenY)
          have hBehind : (m + 1 : ℚ) < k := by exact_mod_cast (by omega : (m : Int) + 1 < k)
          exact mul_lt_mul_of_pos_right hBehind hPlace
        · have hBottom : (2 : ℚ) ^ 52 ≤ m := by exact_mod_cast hFull.resolve_right (by omega)
          have hAbove : (2 : ℚ) ^ 52 * 2 ^ e ≤ m * 2 ^ e := mul_le_mul_of_nonneg_right hBottom hPlace.le
          linarith

/-- Between two doubles with even mantissas there is another one. -/
theorem exists_double_between (hx : IsDouble x) (hy : IsDouble y) (hEvenX : Even x.mantissa)
    (hEvenY : Even y.mantissa) (h : x.value < y.value) :
    ∃ z, IsDouble z ∧ x.value < z.value ∧ z.value < y.value := by
  rcases le_or_gt 0 x.value with hNonneg | hNegative
  · exact exists_double_behind hx hy hEvenX hEvenY hNonneg h
  rcases le_or_gt y.value 0 with hNonpos | hPositive
  · rw [← mantissa_neg] at hEvenX hEvenY
    have hMirrored : y.neg.value < x.neg.value := by
      rw [value_neg, value_neg]
      exact neg_lt_neg h
    obtain ⟨z, hz, hLow, hHigh⟩ := exists_double_behind hy.neg hx.neg hEvenY hEvenX
      (by rw [value_neg]; exact neg_nonneg.mpr hNonpos) hMirrored
    rw [value_neg] at hLow hHigh
    refine ⟨z.neg, hz.neg, ?_, ?_⟩ <;> rw [value_neg] <;> linarith
  · refine ⟨_, (isRounding_zero false).double, ?_⟩
    simpa [value, signed] using And.intro hNegative hPositive

namespace IsRounding

theorem abs_le (h : IsRounding v x) (hy : IsDouble y) : |v - x.value| ≤ |v - y.value| := by
  rcases eq_or_ne y.value x.value with hSame | hOther
  · rw [hSame]
  · exact (h.nearest y hy hOther).elim le_of_lt fun hTie => le_of_eq hTie.1

theorem even_of_tie (h : IsRounding v x) (hy : IsDouble y) (hOther : y.value ≠ x.value)
    (hTie : |v - x.value| = |v - y.value|) : Even x.mantissa :=
  (h.nearest y hy hOther).elim (fun hLess => absurd hTie hLess.ne) And.right

/-- The nearest double does not go down when the value goes up. -/
theorem mono (hx : IsRounding v x) (hy : IsRounding w y) (h : v ≤ w) : x.value ≤ y.value := by
  by_contra hBelow
  rw [not_le] at hBelow
  have hHigh : x.value + y.value ≤ 2 * v := by
    have hNear := hx.abs_le hy.double
    rcases abs_cases (v - x.value) with ⟨hX, _⟩ | ⟨hX, _⟩ <;>
      rcases abs_cases (v - y.value) with ⟨hY, _⟩ | ⟨hY, _⟩ <;> linarith
  have hLow : 2 * w ≤ x.value + y.value := by
    have hNear := hy.abs_le hx.double
    rcases abs_cases (w - x.value) with ⟨hX, _⟩ | ⟨hX, _⟩ <;>
      rcases abs_cases (w - y.value) with ⟨hY, _⟩ | ⟨hY, _⟩ <;> linarith
  -- Only the middle between the two is left, and there another double is nearer.
  have hMiddle : v = (x.value + y.value) / 2 := by linarith
  have hSame : w = v := by linarith
  have hOffX : |v - x.value| = (x.value - y.value) / 2 := by
    rw [hMiddle, abs_of_nonpos (by linarith)]
    ring
  have hOffY : |v - y.value| = (x.value - y.value) / 2 := by
    rw [hMiddle, abs_of_nonneg (by linarith)]
    ring
  have hEvenX : Even x.mantissa := hx.even_of_tie hy.double hBelow.ne (hOffX.trans hOffY.symm)
  have hEvenY : Even y.mantissa := hy.even_of_tie hx.double hBelow.ne' (hSame ▸ hOffY.trans hOffX.symm)
  obtain ⟨z, hz, hAbove, hUnder⟩ := exists_double_between hy.double hx.double hEvenY hEvenX hBelow
  have hNearer : |v - z.value| < (x.value - y.value) / 2 := by
    rw [hMiddle, abs_lt]
    constructor <;> linarith
  exact absurd (hx.abs_le hz) (by rw [hOffX, not_le]; exact hNearer)

/-- A whole number that bounds a value bounds its rounding. -/
theorem le_int {n : Int} (h : IsRounding v x) (hn : n.natAbs < 2 ^ 53) (hBound : v ≤ n) : x.value ≤ n := by
  obtain ⟨hDouble, hValue⟩ := ofInt_exact hn
  have hOrder : x.value ≤ (ofInt n).value := h.mono hDouble.isRounding (by rwa [hValue])
  rwa [hValue] at hOrder

theorem int_le {n : Int} (h : IsRounding v x) (hn : n.natAbs < 2 ^ 53) (hBound : n ≤ v) : n ≤ x.value := by
  obtain ⟨hDouble, hValue⟩ := ofInt_exact hn
  have hOrder : (ofInt n).value ≤ x.value := hDouble.isRounding.mono h (by rwa [hValue])
  rwa [hValue] at hOrder

end IsRounding

/-! ### The order of numbers -/

theorem aligned_values (s : Bool) (m : Nat) (e : Int) (t : Bool) (n : Nat) (f : Int) :
    ((aligned s m e t n f).1 * 2 ^ min e f : ℚ) = (finite s m e).value ∧
      ((aligned s m e t n f).2.1 * 2 ^ min e f : ℚ) = (finite t n f).value :=
  ⟨lower_place_value _ (min_le_left e f), lower_place_value _ (min_le_right e f)⟩

/-- Finite numbers are compared by value. -/
theorem le_iff_value_le (hx : x.isFinite = true) (hy : y.isFinite = true) :
    x.le y = true ↔ x.value ≤ y.value := by
  match x, y, hx, hy with
  | .finite s m e, .finite t n f, _, _ =>
      obtain ⟨hLeft, hRight⟩ := aligned_values s m e t n f
      rw [← hLeft, ← hRight, mul_le_mul_iff_left₀ (two_zpow_pos _), Int.cast_le, le_iff_lt_or_eq]
      simp only [le, lt, eqv, Bool.or_eq_true, decide_eq_true_eq]

/-- A finite number is positive just if its value is. -/
theorem zero_lt_iff_value_pos (hx : x.isFinite = true) : lt zero x = true ↔ 0 < x.value := by
  match x, hx with
  | .finite s m e, _ =>
      rw [zero_lt_finite_iff, value, mul_pos_iff_of_pos_right (two_zpow_pos e), Int.cast_pos]

theorem le_infinite (hx : x ≠ .nan) : x.le (.infinite false) = true := by
  cases x with
  | nan => exact absurd rfl hx
  | finite s m e => rfl
  | infinite s => cases s <;> rfl

theorem infinite_le (hx : x ≠ .nan) : (infinite true).le x = true := by
  cases x with
  | nan => exact absurd rfl hx
  | finite s m e => rfl
  | infinite s => cases s <;> rfl

/-- Of two numbers in order the first is the lower infinity, the second the upper one, or both are finite. -/
theorem le_cases (h : x.le y = true) :
    x = .infinite true ∧ y ≠ .nan ∨ x.isFinite = true ∧ y.isFinite = true ∨ y = .infinite false ∧ x ≠ .nan := by
  cases x with
  | nan => cases h
  | finite s m e =>
      cases y with
      | nan => cases h
      | finite t n f => exact Or.inr (Or.inl ⟨rfl, rfl⟩)
      | infinite t => cases t <;> simp_all [le, lt, eqv]
  | infinite s =>
      cases y with
      | nan => simp [le, lt, eqv] at h
      | finite t n f => cases s <;> simp_all [le, lt, eqv]
      | infinite t => cases s <;> cases t <;> simp_all [le, lt, eqv]

theorem zero_lt_of_le (h : x.le y = true) (hx : lt zero x = true) : lt zero y = true := by
  rcases le_cases h with ⟨rfl, _⟩ | ⟨hFiniteX, hFiniteY⟩ | ⟨rfl, _⟩
  · cases hx
  · rw [zero_lt_iff_value_pos hFiniteX] at hx
    rw [le_iff_value_le hFiniteX hFiniteY] at h
    exact (zero_lt_iff_value_pos hFiniteY).mpr (hx.trans_le h)
  · rfl

theorem clampToZero_cases (x : Binary64) : x.clampToZero.isFinite = true ∨ x.clampToZero = .infinite false := by
  cases x with
  | finite s m e =>
      left
      unfold clampToZero
      split <;> rfl
  | infinite s => cases s with
    | false => exact Or.inr rfl
    | true => exact Or.inl rfl
  | nan => exact Or.inl rfl

/-- Numbers stay in order when what is negative is set to zero. -/
theorem clampToZero_le (h : x.le y = true) : x.clampToZero.le y.clampToZero = true := by
  unfold clampToZero
  by_cases hx : lt zero x = true
  · rw [if_pos hx, if_pos (zero_lt_of_le h hx)]
    exact h
  · rw [if_neg hx]
    split
    next hy => simp only [le, hy, Bool.true_or]
    next => rfl

/-! ### Rounding and order -/

theorem RoundsTo.ne_nan (h : RoundsTo v x) : x ≠ .nan := by
  rintro rfl
  cases h with
  | near _ h => exact absurd h.double.isFinite (by decide)

/-- What is rounded once does not go down when the value goes up, out of range either. -/
theorem RoundsTo.mono (hx : RoundsTo v x) (hy : RoundsTo w y) (h : v ≤ w) : x.le y = true := by
  cases hx with
  | near hRangeX hx =>
      cases hy with
      | near _ hy => exact (le_iff_value_le hx.double.isFinite hy.double.isFinite).mpr (hx.mono hy h)
      | out hOut =>
          have hAbove : ¬w < 0 := by
            intro hNegative
            rw [abs_of_neg hNegative] at hOut
            linarith [neg_abs_le v]
          rw [decide_eq_false hAbove]
          exact le_infinite (RoundsTo.near hRangeX hx).ne_nan
  | out hOut =>
      by_cases hNegative : v < 0
      · rw [decide_eq_true hNegative]
        exact infinite_le hy.ne_nan
      · have hAbove : ¬w < 0 := by linarith
        rw [abs_of_nonneg (not_lt.mp hNegative)] at hOut
        have hOutY : ¬|w| < rangeBound := by
          rw [abs_of_nonneg (not_lt.mp hAbove)]
          linarith
        cases hy with
        | near hRange _ => exact absurd hRange hOutY
        | out _ =>
            rw [decide_eq_false hNegative, decide_eq_false hAbove]
            rfl

theorem infinite_mul (hz : z.isFinite = true) (hPositive : 0 < z.value) (negative : Bool) :
    infinite negative * z = infinite negative := by
  match z, hz with
  | .finite t n f, _ =>
      rw [← zero_lt_iff_value_pos rfl, zero_lt_finite_iff, signed_pos_iff] at hPositive
      obtain ⟨rfl, hn⟩ := hPositive
      have hProduct : infinite negative * finite false n f = if n = 0 then .nan else .infinite (negative != false) :=
        rfl
      rw [hProduct, if_neg hn, Bool.bne_false]

/-- Numbers stay in order when they are multiplied by a positive one. -/
theorem mul_le_mul_of_le (h : x.le y = true) (hz : z.isFinite = true) (hPositive : 0 < z.value) :
    (x * z).le (y * z) = true := by
  have hNumber {u : Binary64} (hu : u ≠ .nan) : u * z ≠ .nan := by
    cases u with
    | nan => exact absurd rfl hu
    | finite s m e => exact (roundsTo_mul rfl hz).ne_nan
    | infinite s =>
        rw [infinite_mul hz hPositive]
        exact hu
  rcases le_cases h with ⟨rfl, hy⟩ | ⟨hFiniteX, hFiniteY⟩ | ⟨rfl, hx⟩
  · rw [infinite_mul hz hPositive]
    exact infinite_le (hNumber hy)
  · rw [le_iff_value_le hFiniteX hFiniteY] at h
    exact (roundsTo_mul hFiniteX hz).mono (roundsTo_mul hFiniteY hz) (mul_le_mul_of_nonneg_right h hPositive.le)
  · rw [infinite_mul hz hPositive]
    exact le_infinite (hNumber hx)

end QueryPlayground.Binary64
