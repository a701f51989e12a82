import Mathlib.Data.Int.Log
import Mathlib.Data.Rat.Floor
import QueryPlayground.Proofs.Binary64.Nearest
import QueryPlayground.Proofs.Json.Numeral

/-! Rounding to doubles. In range a quotient is rounded to the double nearest to it, because the doubles around it
are the multiples of one power of two, and all others lie further off. From the middle between the greatest double
and the next power of two on it is rounded to an infinity. Products, sums and differences are rounded once. -/
namespace QueryPlayground.Binary64

/-! ### Doubles -/

/-- The finite doubles: mantissas of 53 bits at most, and of no fewer unless the exponent is the least. -/
inductive IsDouble : Binary64 → Prop where
  | finite {negative : Bool} {m : Nat} {e : Int} (hMantissa : m < 2 ^ 53)
      (hFull : 2 ^ 52 ≤ m ∨ e = minExponent) (hLeast : minExponent ≤ e) (hGreatest : e ≤ maxExponent) :
      IsDouble (.finite negative m e)

def mantissa : Binary64 → Nat
  | .finite _ m _ => m
  | _ => 0

/-- `x` is the double nearest to `v`; of two that are equally near, the one with the even mantissa. -/
structure IsRounding (v : ℚ) (x : Binary64) : Prop where
  double : IsDouble x
  nearest : ∀ y : Binary64, IsDouble y → y.value ≠ x.value →
    |v - x.value| < |v - y.value| ∨ |v - x.value| = |v - y.value| ∧ Even x.mantissa

variable {v w : ℚ} {x y : Binary64} {num den : Nat}

theorem value_neg (x : Binary64) : x.neg.value = -x.value := by
  cases x with
  | finite s m e => cases s <;> simp [neg, value, signed]
  | _ => simp [neg, value]

theorem mantissa_neg (x : Binary64) : x.neg.mantissa = x.mantissa := by
  cases x <;> rfl

theorem IsDouble.isFinite (h : IsDouble x) : x.isFinite = true := by
  cases h
  rfl

theorem IsDouble.neg (h : IsDouble x) : IsDouble x.neg := by
  cases h with
  | finite hMantissa hFull hLeast hGreatest => exact .finite hMantissa hFull hLeast hGreatest

theorem IsRounding.neg (h : IsRounding v x) : IsRounding (-v) x.neg where
  double := h.double.neg
  nearest y hy hOther := by
    have hMirror (a : ℚ) : |-v - a| = |v - -a| := by
      rw [← abs_neg]
      congr 1
      ring
    rw [value_neg] at hOther
    rw [value_neg, mantissa_neg, hMirror, hMirror, neg_neg, ← value_neg y]
    refine h.nearest y.neg hy.neg ?_
    rw [value_neg]
    exact fun hSame => hOther (by rw [← hSame, neg_neg])

/-- A double is its own rounding. -/
theorem IsDouble.isRounding (h : IsDouble x) : IsRounding x.value x where
  double := h
  nearest y _ hOther := by
    rw [sub_self, abs_zero, abs_pos, sub_ne_zero]
    exact Or.inl hOther.symm

/-- Both zeros are roundings of zero. -/
theorem isRounding_zero (negative : Bool) : IsRounding 0 (finite negative 0 minExponent) := by
  have hZero : IsDouble (finite negative 0 minExponent) := .finite (by decide) (.inr rfl) le_rfl (by decide)
  have hValue : (finite negative 0 minExponent).value = 0 := by
    cases negative <;> simp [value, signed]
  exact hValue ▸ hZero.isRounding

/-! ### The last place -/

theorem quotient_pos (hNum : num ≠ 0) (hDen : 0 < den) : (0 : ℚ) < num / den :=
  div_pos (by exact_mod_cast Nat.pos_of_ne_zero hNum) (by exact_mod_cast hDen)

theorem scaleDown_value (num : Nat) (hDen : 0 < den) (e : Int) :
    0 < (scaleDown num den e).2 ∧
      ((scaleDown num den e).1 / (scaleDown num den e).2 * 2 ^ e : ℚ) = num / den := by
  unfold scaleDown
  split
  next hExponent =>
      refine ⟨Nat.mul_pos hDen (Nat.two_pow_pos _), ?_⟩
      rw [two_zpow_of_nonneg hExponent]
      push_cast
      field_simp
  next hExponent =>
      refine ⟨hDen, ?_⟩
      rw [two_zpow_of_nonpos (by omega)]
      push_cast
      field_simp

theorem two_zpow_le_iff_le_log (hv : 0 < v) (e : Int) : (2 : ℚ) ^ e ≤ v ↔ e ≤ Int.log 2 v := by
  exact_mod_cast Int.zpow_le_iff_le_log one_lt_two hv

/-- A number is written on a lower place with zeros behind it. -/
theorem lower_place_value (a : Int) {low e : Int} (h : low ≤ e) :
    ((a * Int.pow 2 (e - low).toNat : Int) * 2 ^ low : ℚ) = a * 2 ^ e := by
  have hShift : (e - low).toNat + low = e := by omega
  rw [Int.pow_eq, Int.cast_mul, Int.cast_pow, Int.cast_ofNat, mul_assoc, two_pow_mul_two_zpow, hShift]

/-- The lengths of two numbers tell the logarithm of their quotient up to one. -/
theorem log_quotient_bounds (hNum : num ≠ 0) (hDen : 0 < den) {k : Int}
    (hk : (num.log2 : Int) - (den.log2 : Int) = k) :
    k - 1 ≤ Int.log 2 (num / den : ℚ) ∧ Int.log 2 (num / den : ℚ) ≤ k := by
  have hDenPos : (0 : ℚ) < den := by exact_mod_cast hDen
  have hPositive : (0 : ℚ) < num / den := quotient_pos hNum hDen
  constructor
  · have hNumLow : (2 : ℚ) ^ num.log2 ≤ num := by exact_mod_cast Nat.log2_self_le hNum
    have hDenHigh : (den : ℚ) ≤ 2 ^ (den.log2 + 1) := by exact_mod_cast Nat.lt_log2_self.le
    have hPlace : ((den.log2 + 1 : Nat) : Int) + (k - 1) = num.log2 := by
      push_cast
      omega
    rw [← two_zpow_le_iff_le_log hPositive, le_div_iff₀ hDenPos]
    calc (2 : ℚ) ^ (k - 1) * den ≤ 2 ^ (k - 1) * 2 ^ (den.log2 + 1) :=
          mul_le_mul_of_nonneg_left hDenHigh (two_zpow_pos _).le
      _ = 2 ^ num.log2 := by rw [mul_comm, two_pow_mul_two_zpow, hPlace, zpow_natCast]
      _ ≤ num := hNumLow
  · have hNumHigh : (num : ℚ) < 2 ^ (num.log2 + 1) := by exact_mod_cast Nat.lt_log2_self
    have hDenLow : (2 : ℚ) ^ den.log2 ≤ den := by exact_mod_cast Nat.log2_self_le hDen.ne'
    have hPlace : (den.log2 : Int) + (k + 1) = (num.log2 + 1 : Nat) := by
      push_cast
      omega
    rw [← Int.lt_add_one_iff, ← not_le, ← two_zpow_le_iff_le_log hPositive, not_le, div_lt_iff₀ hDenPos]
    calc (num : ℚ) < 2 ^ (num.log2 + 1) := hNumHigh
      _ = 2 ^ (k + 1) * 2 ^ den.log2 := by rw [mul_comm, two_pow_mul_two_zpow, hPlace, zpow_natCast]
      _ ≤ 2 ^ (k + 1) * den := mul_le_mul_of_nonneg_left hDenLow (two_zpow_pos _).le

/-- The power of two just below a quotient. -/
theorem floorLog2_eq_log (hNum : num ≠ 0) (hDen : 0 < den) :
    floorLog2 num den = Int.log 2 (num / den : ℚ) := by
  have hPositive : (0 : ℚ) < num / den := quotient_pos hNum hDen
  unfold floorLog2
  dsimp only
  generalize hk : (num.log2 : Int) - (den.log2 : Int) = k
  obtain ⟨hLow, hHigh⟩ := log_quotient_bounds hNum hDen hk
  obtain ⟨hScaled, hValue⟩ := scaleDown_value num hDen k
  have hReached : (scaleDown num den k).2 ≤ (scaleDown num den k).1 ↔ k ≤ Int.log 2 (num / den : ℚ) := by
    have hScaledPos : (0 : ℚ) < (scaleDown num den k).2 := by exact_mod_cast hScaled
    rw [← two_zpow_le_iff_le_log hPositive, ← hValue, le_mul_iff_one_le_left (two_zpow_pos k),
      one_le_div hScaledPos, Nat.cast_le]
  split
  next hBelow => exact le_antisymm (hReached.mp hBelow) hHigh
  next hAbove =>
      have hLess : ¬k ≤ Int.log 2 (num / den : ℚ) := fun h => hAbove (hReached.mpr h)
      omega

/-- The power of two whose multiples are the doubles around a positive value. -/
def place (v : ℚ) : Int := max minExponent (Int.log 2 v - 52)

theorem lt_top_of_place (hv : 0 < v) : v < 2 ^ 53 * 2 ^ place v := by
  rw [two_pow_mul_two_zpow, ← not_le, two_zpow_le_iff_le_log hv, place]
  push_cast
  omega

theorem place_eq_or_bottom_le (hv : 0 < v) : place v = minExponent ∨ 2 ^ 52 * 2 ^ place v ≤ v := by
  rw [two_pow_mul_two_zpow, two_zpow_le_iff_le_log hv, place]
  push_cast
  omega

/-- A double is a multiple of a power of two, or it lies below the doubles with that last place. -/
theorem IsDouble.multiple_or_below (h : IsDouble y) (e : Int) :
    (∃ k : Int, y.value = k * 2 ^ e ∧ (Even y.mantissa → Even k)) ∨
      minExponent < e ∧ y.value < 2 ^ 52 * 2 ^ e := by
  cases h with
  | @finite negative n f hMantissa hFull hLeast hGreatest =>
      rcases le_or_gt e f with hFiner | hCoarser
      · refine Or.inl ⟨_, (lower_place_value (signed negative n) hFiner).symm, fun hEven => ?_⟩
        have hSigned : Even (signed negative n) := by
          rw [mantissa, Nat.even_iff] at hEven
          rw [Int.even_iff]
          cases negative <;> simp only [signed, Bool.false_eq_true, ↓reduceIte] <;> omega
        exact hSigned.mul_right _
      · right
        refine ⟨by omega, ?_⟩
        have hMagnitude : (signed negative n : ℚ) < 2 ^ 53 := by
          have hSigned : signed negative n < 2 ^ 53 := by
            cases negative <;> simp only [signed, Bool.false_eq_true, ↓reduceIte] <;> omega
          exact_mod_cast hSigned
        calc signed negative n * (2 : ℚ) ^ f < 2 ^ 53 * 2 ^ f := mul_lt_mul_of_pos_right hMagnitude (two_zpow_pos f)
          _ = 2 ^ (53 + f) := two_pow_mul_two_zpow 53 f
          _ ≤ 2 ^ (52 + e) := two_zpow_le (by omega)
          _ = 2 ^ 52 * 2 ^ e := (two_pow_mul_two_zpow 52 e).symm

/-- The nearest multiple of the last place is the nearest of all doubles. -/
theorem isRounding_of_isNearest (hv : 0 < v) {n : Nat} (hx : IsDouble x) (hNearest : IsNearest (2 ^ place v) v n)
    (hValue : x.value = n * 2 ^ place v) (hEven : Even n → Even x.mantissa) : IsRounding v x where
  double := hx
  nearest y hy hOther := by
    rw [hValue] at hOther ⊢
    rcases hy.multiple_or_below (place v) with ⟨k, hMultiple, _⟩ | ⟨hPlace, hBelow⟩
    · rw [hMultiple] at hOther ⊢
      have hk : k ≠ n := by
        rintro rfl
        exact hOther rfl
      refine (hNearest k hk).imp_right fun ⟨hTie, hn⟩ => ⟨hTie, hEven ?_⟩
      exact_mod_cast hn
    · -- The least double with this last place is nearer already.
      left
      have hBottom : 2 ^ 52 * 2 ^ place v ≤ v := (place_eq_or_bottom_le hv).resolve_left (by omega)
      have hLess := hNearest.abs_le (2 ^ 52)
      rw [Int.cast_pow, Int.cast_ofNat] at hLess
      calc |v - n * 2 ^ place v| ≤ |v - 2 ^ 52 * 2 ^ place v| := hLess
        _ = v - 2 ^ 52 * 2 ^ place v := abs_of_nonneg (sub_nonneg.mpr hBottom)
        _ < v - y.value := by linarith only [hBelow]
        _ ≤ |v - y.value| := le_abs_self _

/-! ### Quotients, products and sums -/

theorem ofRatio_true (num den : Nat) : ofRatio true num den = (ofRatio false num den).neg := by
  simp only [ofRatio]
  split
  next => rfl
  next => split <;> split <;> rfl

/-- The mantissa of a quotient fits, up to the one that is moved to the next exponent. -/
theorem mantissa_bounds (hv : 0 < v) {n : Nat} (hNearest : IsNearest (2 ^ place v) v n) :
    n ≤ 2 ^ 53 ∧ (2 ^ 52 ≤ n ∨ place v = minExponent) := by
  have hUnit : (0 : ℚ) < 2 ^ place v := two_zpow_pos _
  have hMultiple (k : Nat) : IsNearest (2 ^ place v) (2 ^ k * 2 ^ place v) (2 ^ k : Nat) := by
    have hSelf := isNearest_self hUnit (2 ^ k : Nat)
    rwa [Int.cast_natCast, Nat.cast_pow, Nat.cast_ofNat] at hSelf
  refine ⟨?_, ?_⟩
  · exact Int.ofNat_le.mp (hNearest.mono hUnit (hMultiple 53) (lt_top_of_place hv).le)
  · rcases place_eq_or_bottom_le hv with hLeast | hBottom
    · exact Or.inr hLeast
    · exact Or.inl (Int.ofNat_le.mp ((hMultiple 52).mono hUnit hNearest hBottom))

theorem two_mul_rangeBound : 2 * (rangeBound : ℚ) = (2 ^ 54 - 1) * 2 ^ maxExponent := by
  -- The exponent is kept apart from its value, so that no power of it is ever computed.
  obtain ⟨e, he⟩ : ∃ e : Nat, e = 970 := ⟨970, rfl⟩
  have hPlace : maxExponent = (e : Int) + 1 := by
    rw [he]
    rfl
  rw [rangeBound, hPlace, ← he, two_zpow_add_one, zpow_natCast, Nat.cast_mul, Nat.cast_pow, Nat.cast_ofNat]
  push_cast
  ring

/-- A value is in range as long as its last place is, with a mantissa that is not rounded up behind the greatest
one. -/
theorem lt_rangeBound_iff (hv : 0 < v) {n : Nat} (hNearest : IsNearest (2 ^ place v) v n) :
    v < rangeBound ↔ place v < maxExponent ∨ place v = maxExponent ∧ n ≠ 2 ^ 53 := by
  have hBound : 2 * (rangeBound : ℚ) = (2 ^ 54 - 1) * 2 ^ maxExponent := two_mul_rangeBound
  have hUnit : (0 : ℚ) < 2 ^ maxExponent := two_zpow_pos _
  rcases lt_trichotomy (place v) maxExponent with hLess | hSame | hGreater
  · have hPlace : (2 : ℚ) ^ (place v + 1) ≤ 2 ^ maxExponent := two_zpow_le hLess
    rw [two_zpow_add_one] at hPlace
    refine iff_of_true ?_ (Or.inl hLess)
    linarith [lt_top_of_place hv]
  · have hMost : n ≤ 2 ^ 53 := (mantissa_bounds hv hNearest).1
    rw [hSame] at hNearest ⊢
    have hAbove : (2 ^ 53 - 1 : Int) < n ↔ (2 * (2 ^ 53 - 1 : Int) + 1) * 2 ^ maxExponent ≤ 2 * v :=
      hNearest.lt_iff_of_odd hUnit (by decide)
    have hMiddle : (2 * (2 ^ 53 - 1 : Int) + 1) * 2 ^ maxExponent = 2 * (rangeBound : ℚ) := by
      rw [hBound]
      push_cast
      ring
    rw [hMiddle, mul_le_mul_iff_right₀ two_pos, ← not_lt] at hAbove
    rw [← not_iff_not, ← hAbove]
    omega
  · have hPlace : (2 : ℚ) ^ (maxExponent + 1) ≤ 2 ^ place v := two_zpow_le hGreater
    rw [two_zpow_add_one] at hPlace
    have hBottom : 2 ^ 52 * 2 ^ place v ≤ v :=
      (place_eq_or_bottom_le hv).resolve_left (ne_of_gt (lt_trans (by decide) hGreater))
    refine iff_of_false ?_ (by omega)
    rw [not_lt]
    linarith

theorem max_minExponent_floorLog2 (hNum : num ≠ 0) (hDen : 0 < den) :
    max minExponent (floorLog2 num den - (precision - 1)) = place (num / den) := by
  rw [floorLog2_eq_log hNum hDen]
  rfl

/-- The mantissa before it is moved to the next exponent. -/
theorem isNearest_scaleDown (num : Nat) (hDen : 0 < den) (e : Int) :
    IsNearest (2 ^ e) (num / den) (nearestEven (scaleDown num den e).1 (scaleDown num den e).2) := by
  obtain ⟨hScaled, hValue⟩ := scaleDown_value num hDen e
  rw [← hValue]
  exact isNearest_nearestEven hScaled (two_zpow_pos e)

/-- A quotient is a finite double just below the bound. -/
theorem isFinite_ofRatio_iff_lt (hNum : num ≠ 0) (hDen : 0 < den) (negative : Bool) :
    (ofRatio negative num den).isFinite = true ↔ (num / den : ℚ) < rangeBound := by
  have hPositive : (0 : ℚ) < num / den := quotient_pos hNum hDen
  rw [isFinite_ofRatio_iff hNum (max_minExponent_floorLog2 hNum hDen) rfl,
    lt_rangeBound_iff hPositive (isNearest_scaleDown num hDen _)]
  rfl

theorem ofRatio_eq_infinite {negative : Bool} (h : ¬(ofRatio negative num den).isFinite = true) :
    ofRatio negative num den = .infinite negative := by
  refine Or.resolve_right ?_ h
  unfold ofRatio
  split
  next => exact Or.inr rfl
  next =>
      dsimp only
      -- The inner choice is of the mantissa, the outer one of the range.
      split <;> split
      next => exact Or.inl rfl
      next => exact Or.inr rfl
      next => exact Or.inl rfl
      next => exact Or.inr rfl

theorem isRounding_ofRatio_false (hNum : num ≠ 0) (hDen : 0 < den) (hRange : (num / den : ℚ) < rangeBound) :
    IsRounding (num / den) (ofRatio false num den) := by
  have hPositive : (0 : ℚ) < num / den := quotient_pos hNum hDen
  have hNearest := isNearest_scaleDown num hDen (place (num / den))
  obtain ⟨hMost, hFull⟩ := mantissa_bounds hPositive hNearest
  rw [lt_rangeBound_iff hPositive hNearest] at hRange
  have hLeast : minExponent ≤ place (num / den : ℚ) := le_max_left _ _
  have hTopPower : Nat.pow 2 precision = 2 ^ 53 := rfl
  have hBottomPower : Nat.pow 2 (precision - 1) = 2 ^ 52 := rfl
  unfold ofRatio
  rw [if_neg hNum]
  dsimp only
  rw [max_minExponent_floorLog2 hNum hDen, hTopPower, hBottomPower]
  generalize nearestEven _ _ = n at *
  by_cases hTop : n = 2 ^ 53
  · -- Rounded up to a power of two, which has its last place one higher.
    rw [if_pos hTop]
    dsimp only
    rw [if_neg (by omega)]
    refine isRounding_of_isNearest hPositive ?_ hNearest ?_ ?_
    · exact .finite (by decide) (.inl (by decide)) (by omega) (by omega)
    · rw [value, two_zpow_add_one, hTop]
      simp only [signed, Bool.false_eq_true, ↓reduceIte, Nat.cast_pow, Nat.cast_ofNat]
      ring
    · exact fun _ => ⟨2 ^ 51, rfl⟩
  · rw [if_neg hTop]
    dsimp only
    rw [if_neg (by omega)]
    refine isRounding_of_isNearest hPositive ?_ hNearest ?_ id
    · exact .finite (by omega) hFull hLeast (by omega)
    · simp [value, signed]

/-- What a value comes to: the double nearest to it, or from the middle between the greatest double and the next
power of two on an infinity. -/
inductive RoundsTo (v : ℚ) : Binary64 → Prop where
  | near {x : Binary64} (hRange : |v| < rangeBound) (h : IsRounding v x) : RoundsTo v x
  | out (hRange : rangeBound ≤ |v|) : RoundsTo v (.infinite (v < 0))

theorem RoundsTo.isRounding (h : RoundsTo v x) (hRange : |v| < rangeBound) : IsRounding v x := by
  cases h with
  | near _ h => exact h
  | out hOut => exact absurd hRange hOut.not_gt

theorem rangeBound_pos : (0 : ℚ) < rangeBound := by
  have hUnit : (0 : ℚ) < 2 ^ maxExponent := two_zpow_pos _
  linarith [two_mul_rangeBound]

theorem roundsTo_zero (negative : Bool) : RoundsTo 0 (finite negative 0 minExponent) := by
  refine .near ?_ (isRounding_zero negative)
  rw [abs_zero]
  exact rangeBound_pos

theorem signed_lt_zero {negative : Bool} (hNum : num ≠ 0) : signed negative num < 0 ↔ negative = true := by
  cases negative with
  | false => simp [signed]
  | true => simp [signed, Nat.pos_of_ne_zero hNum]

/-- A quotient is rounded once. -/
theorem roundsTo_ofRatio (hDen : 0 < den) (negative : Bool) :
    RoundsTo (signed negative num / den) (ofRatio negative num den) := by
  have hDenPos : (0 : ℚ) < den := by exact_mod_cast hDen
  rcases eq_or_ne num 0 with rfl | hNum
  · have hZero : (signed negative 0 / den : ℚ) = 0 := by
      cases negative <;> simp [signed]
    rw [hZero]
    exact roundsTo_zero negative
  · have hMagnitude : |(signed negative num / den : ℚ)| = num / den := by
      rw [abs_div, abs_signed, Nat.abs_cast]
    by_cases hRange : (num / den : ℚ) < rangeBound
    · have hPositive : IsRounding (num / den) (ofRatio false num den) :=
        isRounding_ofRatio_false hNum hDen hRange
      refine .near (hMagnitude ▸ hRange) ?_
      cases negative with
      | false => exact hPositive
      | true =>
          have hValue : (signed true num / den : ℚ) = -(num / den) := by
            simp [signed, neg_div]
          rw [ofRatio_true, hValue]
          exact hPositive.neg
    · have hSign : decide ((signed negative num / den : ℚ) < 0) = negative := by
        rw [Bool.eq_iff_iff, decide_eq_true_iff, div_lt_iff₀ hDenPos, zero_mul, ← signed_lt_zero hNum]
        exact_mod_cast Iff.rfl
      rw [ofRatio_eq_infinite ((isFinite_ofRatio_iff_lt hNum hDen negative).not.mpr hRange)]
      have hOut := RoundsTo.out (hMagnitude ▸ not_lt.mp hRange)
      rwa [hSign] at hOut

theorem signed_mul_signed (s t : Bool) (m n : Nat) : signed (s != t) (m * n) = signed s m * signed t n := by
  cases s <;> cases t <;> simp [signed]

/-- A number that is given with a power of two is rounded once. -/
theorem roundsTo_ofScaled (negative : Bool) (m : Nat) (e : Int) :
    RoundsTo (signed negative m * 2 ^ e) (ofScaled negative m e) := by
  unfold ofScaled
  split
  next hExponent =>
      have hPower : (signed negative (m * Nat.pow 2 e.toNat) / (1 : Nat) : ℚ) = signed negative m * 2 ^ e := by
        have hSigned := signed_mul_signed negative false m (Nat.pow 2 e.toNat)
        rw [Bool.bne_false] at hSigned
        rw [hSigned, two_zpow_of_nonneg hExponent]
        simp [signed]
      rw [← hPower]
      exact roundsTo_ofRatio Nat.one_pos negative
  next hExponent =>
      rw [two_zpow_of_nonpos (by omega), mul_one_div]
      exact roundsTo_ofRatio (Nat.two_pow_pos _) negative

/-- A product is rounded once. -/
theorem roundsTo_mul (hx : x.isFinite = true) (hy : y.isFinite = true) :
    RoundsTo (x.value * y.value) (x * y) := by
  match x, y, hx, hy with
  | .finite s m e, .finite t n f, _, _ =>
      have hProduct : (finite s m e).value * (finite t n f).value =
          signed (s != t) (m * n) * 2 ^ (e + f) := by
        rw [signed_mul_signed, zpow_add₀ two_ne_zero, value, value]
        push_cast
        ring
      rw [hProduct]
      exact roundsTo_ofScaled _ _ _

/-- A sum is rounded once. -/
theorem roundsTo_add (hx : x.isFinite = true) (hy : y.isFinite = true) :
    RoundsTo (x.value + y.value) (x + y) := by
  match x, y, hx, hy with
  | .finite s m e, .finite t n f, _, _ =>
      obtain ⟨sum, hValue, hSum⟩ : ∃ sum : Int,
          (sum * 2 ^ min e f : ℚ) = (finite s m e).value + (finite t n f).value ∧
            finite s m e + finite t n f = if sum = 0 then finite (s && t) 0 minExponent
              else ofScaled (sum < 0) sum.natAbs (min e f) := by
        refine ⟨_, ?_, rfl⟩
        rw [Int.cast_add, add_mul, lower_place_value _ (min_le_left e f), lower_place_value _ (min_le_right e f)]
        rfl
      rw [hSum, ← hValue]
      split
      next hZero =>
          rw [hZero, Int.cast_zero, zero_mul]
          exact roundsTo_zero _
      next hOther =>
          have hScaled := roundsTo_ofScaled (sum < 0) sum.natAbs (min e f)
          rwa [Json.signed_natAbs] at hScaled

/-- A difference is rounded once. -/
theorem roundsTo_sub (hx : x.isFinite = true) (hy : y.isFinite = true) :
    RoundsTo (x.value - y.value) (x - y) := by
  have hNeg : y.neg.isFinite = true := by
    cases y <;> simp_all [neg, isFinite]
  rw [sub_eq_add_neg, ← value_neg]
  exact roundsTo_add hx hNeg

/-! ### Exact values -/

/-- A mantissa that is too short is written on a lower place. -/
theorem exists_double (negative : Bool) {m : Nat} {e : Int} (hMantissa : m < 2 ^ 53) (hLeast : minExponent ≤ e)
    (hGreatest : e ≤ maxExponent) : ∃ y, IsDouble y ∧ y.value = signed negative m * 2 ^ e := by
  obtain ⟨k, hk⟩ := Int.eq_ofNat_of_zero_le (sub_nonneg.mpr hLeast)
  induction k generalizing m e with
  | zero => exact ⟨finite negative m e, .finite hMantissa (.inr (by omega)) hLeast hGreatest, rfl⟩
  | succ k ih =>
      by_cases hFull : 2 ^ 52 ≤ m
      · exact ⟨finite negative m e, .finite hMantissa (.inl hFull) hLeast hGreatest, rfl⟩
      · obtain ⟨y, hy, hValue⟩ := ih (m := 2 * m) (e := e - 1) (by omega) (by omega) (by omega) (by omega)
        refine ⟨y, hy, hValue.trans ?_⟩
        have hPlace : (2 : ℚ) ^ e = 2 * 2 ^ (e - 1) := by rw [← two_zpow_add_one, sub_add_cancel]
        rw [hPlace]
        cases negative <;> simp only [signed, Bool.false_eq_true, ↓reduceIte] <;> push_cast <;> ring

theorem IsRounding.value_eq (hx : IsRounding v x) (hy : IsDouble y) (hValue : y.value = v) : x.value = v := by
  by_contra hOther
  have hNear := hx.nearest y hy (by rw [hValue]; exact Ne.symm hOther)
  rw [hValue, sub_self, abs_zero] at hNear
  rcases hNear with hLess | ⟨hSame, _⟩
  · exact absurd hLess (abs_nonneg _).not_gt
  · exact hOther (sub_eq_zero.mp (abs_eq_zero.mp hSame)).symm

/-- Doubles are in range. -/
theorem lt_rangeBound_of_double {m : Nat} {e : Int} (hMantissa : m < 2 ^ 53) (hGreatest : e ≤ maxExponent) :
    (m * 2 ^ e : ℚ) < rangeBound := by
  have hUnit : (0 : ℚ) < 2 ^ maxExponent := two_zpow_pos _
  have hMost : (m : ℚ) + 1 ≤ 2 ^ 53 := by exact_mod_cast hMantissa
  calc (m * 2 ^ e : ℚ) ≤ (2 ^ 53 - 1) * 2 ^ maxExponent :=
        mul_le_mul (by linarith) (two_zpow_le hGreatest) (two_zpow_pos e).le (by norm_num)
    _ < rangeBound := by linarith [two_mul_rangeBound]

/-- A quotient that takes 53 bits at most is not rounded at all. -/
theorem ofRatio_exact {m : Nat} {e : Int} (hDen : 0 < den) (hQuotient : (num / den : ℚ) = m * 2 ^ e)
    (hMantissa : m < 2 ^ 53) (hLeast : minExponent ≤ e) (hGreatest : e ≤ maxExponent) (negative : Bool) :
    IsDouble (ofRatio negative num den) ∧ (ofRatio negative num den).value = signed negative m * 2 ^ e := by
  have hSame : (signed negative num / den : ℚ) = signed negative m * 2 ^ e := by
    cases negative with
    | false => simpa [signed] using hQuotient
    | true => simpa [signed, neg_div] using hQuotient
  have hRange : |(signed negative num / den : ℚ)| < rangeBound := by
    rw [hSame, abs_mul, abs_signed, abs_of_pos (two_zpow_pos e)]
    exact lt_rangeBound_of_double hMantissa hGreatest
  have hRounding : IsRounding (signed negative num / den) (ofRatio negative num den) :=
    (roundsTo_ofRatio hDen negative).isRounding hRange
  obtain ⟨y, hy, hValue⟩ := exists_double negative hMantissa hLeast hGreatest
  exact ⟨hRounding.double, hSame ▸ hRounding.value_eq hy (hValue.trans hSame.symm)⟩

/-- Integers of 53 bits at most are doubles. -/
theorem ofInt_exact {n : Int} (hn : n.natAbs < 2 ^ 53) : IsDouble (ofInt n) ∧ (ofInt n).value = n := by
  have hQuotient : (n.natAbs / (1 : Nat) : ℚ) = n.natAbs * 2 ^ (0 : Int) := by simp
  obtain ⟨hDouble, hValue⟩ := ofRatio_exact Nat.one_pos hQuotient hn (by decide) (by decide) (n < 0)
  rw [Json.signed_natAbs, zpow_zero, mul_one] at hValue
  exact ⟨hDouble, hValue⟩

end QueryPlayground.Binary64
