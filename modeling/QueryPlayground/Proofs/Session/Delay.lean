import QueryPlayground.Proofs.Binary64.Order
import QueryPlayground.Session.Dispatch

/-! The pause of a store, drawn at random. Both of its steps are rounded, and neither turns the order of two draws
round. So its bounds are those of the least and the greatest draw: it is a hundred milliseconds at least, and
it comes to three hundred for the greatest draw alone, where the sum is half way between two doubles. -/
namespace QueryPlayground

open Binary64

/-- The numbers that may be drawn: the multiples of `2 ^ (-53)` from zero on that are less than one. -/
def IsDraw (x : Binary64) : Prop := x.isFinite = true ∧ ∃ k : Nat, k < 2 ^ 53 ∧ x.value = k / 2 ^ 53

variable {x y delay later : Binary64}

theorem IsDraw.nonneg (h : IsDraw x) : 0 ≤ x.value := by
  obtain ⟨_, k, _, hValue⟩ := h
  rw [hValue]
  positivity

/-- A draw is the greatest one, or at most the one before it. -/
theorem IsDraw.eq_or_le (h : IsDraw x) : x.value = 1 - 1 / 2 ^ 53 ∨ x.value ≤ 1 - 2 / 2 ^ 53 := by
  obtain ⟨_, k, hk, hValue⟩ := h
  rw [hValue]
  rcases eq_or_lt_of_le (Nat.le_sub_one_of_lt hk) with rfl | hLess
  · left
    norm_num
  · right
    have hStep : (k : ℚ) + 2 ≤ 2 ^ 53 := by exact_mod_cast (by omega : k + 2 ≤ 2 ^ 53)
    linarith

theorem IsDraw.le_one (h : IsDraw x) : x.value ≤ 1 := by
  rcases h.eq_or_le with hGreatest | hLess <;> linarith

/-- The draw of so many units of `2 ^ (-53)`, as a machine makes it. -/
def draw (k : Nat) : Binary64 := .ofRatio false k (2 ^ 53)

theorem draw_exact {k : Nat} (hk : k < 2 ^ 53) : (draw k).isFinite = true ∧ (draw k).value = k / 2 ^ 53 := by
  have hQuotient : (k / (2 ^ 53 : Nat) : ℚ) = k * 2 ^ (-53 : Int) := by norm_num [div_eq_mul_inv]
  obtain ⟨hDouble, hValue⟩ := ofRatio_exact (by decide) hQuotient hk (by decide) (by decide) false
  have hUnsigned : (signed false k : ℚ) = k := rfl
  rw [hUnsigned, ← hQuotient, Nat.cast_pow, Nat.cast_ofNat] at hValue
  exact ⟨hDouble.isFinite, hValue⟩

theorem isDraw_draw {k : Nat} (hk : k < 2 ^ 53) : IsDraw (draw k) :=
  ⟨(draw_exact hk).1, k, hk, (draw_exact hk).2⟩

/-- The pause in its two steps. -/
theorem exists_delay (h : IsDraw x) : ∃ product delay : Binary64, simulatedDelay (.real x) = .real delay ∧
    IsRounding (x.value * 200) product ∧ IsRounding (product.value + 100) delay ∧
      100 ≤ delay.value ∧ delay.value ≤ 300 := by
  obtain ⟨hSpan, hSpanValue⟩ := ofInt_exact (n := 200) (by decide)
  obtain ⟨hLeast, hLeastValue⟩ := ofInt_exact (n := 100) (by decide)
  push_cast at hSpanValue hLeastValue
  have hNonneg : 0 ≤ x.value := h.nonneg
  have hOne : x.value ≤ 1 := h.le_one
  have hInRange {v : ℚ} (hLow : 0 ≤ v) (hHigh : v ≤ 300) : |v| < rangeBound := by
    have hFar : ((300 : Nat) * 2 ^ (0 : Int) : ℚ) < rangeBound := lt_rangeBound_of_double (by decide) (by decide)
    rw [zpow_zero, mul_one] at hFar
    rw [abs_of_nonneg hLow]
    exact hHigh.trans_lt hFar
  have hProduct : IsRounding (x.value * 200) (x * ofInt 200) :=
    hSpanValue ▸ (roundsTo_mul h.1 hSpan.isFinite).isRounding
      (by rw [hSpanValue]; exact hInRange (by linarith) (by linarith))
  have hProductLow : 0 ≤ (x * ofInt 200).value := by
    exact_mod_cast hProduct.int_le (n := 0) (by decide) (by push_cast; linarith)
  have hProductHigh : (x * ofInt 200).value ≤ 200 := by
    exact_mod_cast hProduct.le_int (n := 200) (by decide) (by push_cast; linarith)
  have hSum : IsRounding ((x * ofInt 200).value + 100) (x * ofInt 200 + ofInt 100) :=
    hLeastValue ▸ (roundsTo_add hProduct.double.isFinite hLeast.isFinite).isRounding
      (by rw [hLeastValue]; exact hInRange (by linarith) (by linarith))
  refine ⟨_, _, rfl, hProduct, hSum, ?_, ?_⟩
  · exact_mod_cast hSum.int_le (n := 100) (by decide) (by push_cast; linarith)
  · exact_mod_cast hSum.le_int (n := 300) (by decide) (by push_cast; linarith)

/-- A greater draw gives no shorter pause. -/
theorem delay_mono (hx : IsDraw x) (hy : IsDraw y) (h : x.value ≤ y.value)
    (hDelay : simulatedDelay (.real x) = .real delay) (hLater : simulatedDelay (.real y) = .real later) :
    delay.value ≤ later.value := by
  obtain ⟨product, _, hForm, hProduct, hSum, _⟩ := exists_delay hx
  obtain ⟨productLater, _, hFormLater, hProductLater, hSumLater, _⟩ := exists_delay hy
  obtain rfl := Amount.real.inj (hForm.symm.trans hDelay)
  obtain rfl := Amount.real.inj (hFormLater.symm.trans hLater)
  have hProducts : product.value ≤ productLater.value := hProduct.mono hProductLater (by linarith)
  exact hSum.mono hSumLater (by linarith)

theorem exists_delay_greatest_draw :
    ∃ delay : Binary64, simulatedDelay (.real (draw (2 ^ 53 - 1))) = .real delay ∧ delay.value = 300 := by
  refine ⟨.finite false (300 * 2 ^ 44) (-44), by decide +kernel, ?_⟩
  norm_num [value, signed]

theorem exists_delay_draw_before :
    ∃ delay : Binary64, simulatedDelay (.real (draw (2 ^ 53 - 2))) = .real delay ∧ delay.value < 300 := by
  refine ⟨.finite false (300 * 2 ^ 44 - 1) (-44), by decide +kernel, ?_⟩
  norm_num [value, signed]

/-- A pause lasts from a hundred up to three hundred milliseconds, the longer the greater the draw is. It comes
to three hundred just for the greatest draw. -/
theorem simulatedDelay_bounds (hDraw : IsDraw x) :
    ∃ product delay : Binary64, simulatedDelay (.real x) = .real delay ∧
      IsRounding (x.value * 200) product ∧ IsRounding (product.value + 100) delay ∧
      100 ≤ delay.value ∧ delay.value ≤ 300 ∧ (delay.value < 300 ↔ x.value ≠ 1 - 1 / 2 ^ 53) ∧
      ∀ y later : Binary64, IsDraw y → x.value ≤ y.value → simulatedDelay (.real y) = .real later →
        delay.value ≤ later.value := by
  obtain ⟨product, delay, hDelay, hProduct, hSum, hLow, hHigh⟩ := exists_delay hDraw
  refine ⟨product, delay, hDelay, hProduct, hSum, hLow, hHigh, ?_, ?_⟩
  · constructor
    · rintro hBelow hGreatest
      obtain ⟨last, hLast, hLastValue⟩ := exists_delay_greatest_draw
      have hSame : (draw (2 ^ 53 - 1)).value = x.value := by
        rw [(draw_exact (by decide)).2, hGreatest]
        norm_num
      have hReached : last.value ≤ delay.value := delay_mono (isDraw_draw (by decide)) hDraw hSame.le hLast hDelay
      linarith
    · intro hOther
      obtain ⟨before, hBefore, hBeforeValue⟩ := exists_delay_draw_before
      have hBound : x.value ≤ (draw (2 ^ 53 - 2)).value := by
        refine (hDraw.eq_or_le.resolve_left hOther).trans_eq ?_
        rw [(draw_exact (by decide)).2]
        norm_num
      have hShort : delay.value ≤ before.value := delay_mono hDraw (isDraw_draw (by decide)) hBound hDelay hBefore
      linarith
  · intro y later hLater hOrder hForm
    exact delay_mono hDraw hLater hOrder hDelay hForm

/-- The greatest draw gives a pause of three hundred milliseconds. -/
theorem simulatedDelay_greatest_draw :
    IsDraw (draw (2 ^ 53 - 1)) ∧
      ∃ delay : Binary64, simulatedDelay (.real (draw (2 ^ 53 - 1))) = .real delay ∧ ¬delay.value < 300 := by
  obtain ⟨delay, hDelay, hValue⟩ := exists_delay_greatest_draw
  exact ⟨isDraw_draw (by decide), delay, hDelay, hValue.not_lt⟩

/-- The draw before the greatest one, whose pause is the greatest below three hundred milliseconds. -/
theorem simulatedDelay_bounds_draw_before :
    IsDraw (draw (2 ^ 53 - 2)) ∧
      ∃ delay : Binary64, simulatedDelay (.real (draw (2 ^ 53 - 2))) = .real delay ∧
        100 ≤ delay.value ∧ delay.value < 300 ∧
        ∀ later : Binary64, simulatedDelay (.real (draw (2 ^ 53 - 1))) = .real later →
          delay.value ≤ later.value := by
  have hBefore : IsDraw (draw (2 ^ 53 - 2)) := isDraw_draw (by decide)
  obtain ⟨_, delay, hDelay, _, _, hLow, _, hBelow, hOrder⟩ := simulatedDelay_bounds hBefore
  refine ⟨hBefore, delay, hDelay, hLow, hBelow.mpr ?_, fun later => hOrder _ later (isDraw_draw (by decide)) ?_⟩
  · rw [(draw_exact (by decide)).2]
    norm_num
  · rw [(draw_exact (by decide)).2, (draw_exact (by decide)).2]
    norm_num

end QueryPlayground
