import QueryPlayground.Page.Model
import QueryPlayground.Proofs.Binary64.Nearest
import QueryPlayground.Proofs.Json.NumberText

/-! Elapsed times as they are shown. A finite time is shown as a figure with two places: the number of hundredths
nearest to it, of two that are equally near the one that ends in an even digit. A time below zero is shown as
zero. A longer time has no smaller figure. -/
namespace QueryPlayground.Page

open Binary64

/-- A number with two places: a row of digits without a superfluous zero in front, a point, and two digits. -/
structure Figure where
  whole : List Char
  tenths : Char
  hundredths : Char
  whole_digits : Json.IsDigits whole
  whole_plain : whole.head? = some '0' → whole = ['0']
  tenths_digit : isAsciiDigit tenths = true
  hundredths_digit : isAsciiDigit hundredths = true

namespace Figure

def text (figure : Figure) : List Char := figure.whole ++ ['.', figure.tenths, figure.hundredths]

/-- The number in hundredths. -/
def units (figure : Figure) : Nat := digitsValue (figure.whole ++ [figure.tenths, figure.hundredths])

def value (figure : Figure) : ℚ := figure.units / 100

/-- A text shows one number only. -/
theorem units_eq_of_text_eq {figure other : Figure} (h : figure.text = other.text) : figure.units = other.units := by
  obtain ⟨hWhole, hPlaces⟩ := List.append_inj' h rfl
  rw [units, units, hWhole, (List.cons.inj hPlaces).2]

end Figure

theorem digitsValue_append_digit (s : List Char) {d : Nat} (hd : d < 10) :
    digitsValue (s ++ [Nat.digitChar d]) = 10 * digitsValue s + d := by
  rw [digitsValue, List.foldl_append, List.foldl_cons, List.foldl_nil, Nat.toNat_digitChar_of_lt_ten hd,
    Nat.add_sub_cancel_left]
  rfl

theorem isAsciiDigit_digitChar {d : Nat} (hd : d < 10) : isAsciiDigit (Nat.digitChar d) = true := by
  refine Json.isAsciiDigit_of_mem_toDigits (n := d) ?_
  rw [Nat.toDigits_of_lt_base hd]
  exact List.mem_singleton_self _

theorem even_digitChar : ∀ d < 10, d % 2 = 0 → Nat.digitChar d ∈ ['0', '2', '4', '6', '8'] := by
  decide

/-- A number of hundredths as a figure. -/
theorem exists_figure (n : Nat) : ∃ figure : Figure,
    figure.text = Nat.toDigits 10 (n / 100) ++ '.' :: twoDigits (n % 100) ∧ figure.units = n ∧
      (Even n → figure.hundredths ∈ ['0', '2', '4', '6', '8']) := by
  have hTenths : n % 100 / 10 % 10 < 10 := Nat.mod_lt _ (by decide)
  have hHundredths : n % 100 % 10 < 10 := Nat.mod_lt _ (by decide)
  refine ⟨⟨Nat.toDigits 10 (n / 100), Nat.digitChar (n % 100 / 10 % 10), Nat.digitChar (n % 100 % 10),
    Json.isDigits_toDigits _, ?_, isAsciiDigit_digitChar hTenths, isAsciiDigit_digitChar hHundredths⟩, ?_, ?_, ?_⟩
  · intro hZero
    rcases Nat.eq_zero_or_pos (n / 100) with hNone | hSome
    · rw [hNone, Nat.toDigits_zero]
    · exact absurd hZero (Json.toDigits_head_ne_zero _ hSome)
  · rw [Figure.text, twoDigits, Nat.toDigits_of_lt_base hTenths, Nat.toDigits_of_lt_base hHundredths]
    rfl
  · have hSplit (a b : Char) (s : List Char) : s ++ [a, b] = s ++ [a] ++ [b] := by simp
    rw [Figure.units, hSplit, digitsValue_append_digit _ hHundredths, digitsValue_append_digit _ hTenths,
      Json.digitsValue_toDigits]
    omega
  · intro hEven
    rw [Nat.even_iff] at hEven
    exact even_digitChar _ hHundredths (by omega)

/-- A finite time, set to zero if it is negative, is a magnitude. -/
theorem exists_magnitude {x : Binary64} (hx : x.isFinite = true) :
    ∃ (m : Nat) (e : Int), x.clampToZero = .finite false m e ∧ max 0 x.value = m * 2 ^ e := by
  match x, hx with
  | .finite s m e, _ =>
      unfold clampToZero
      split
      next hPositive =>
          rw [zero_lt_finite_iff, signed_pos_iff] at hPositive
          obtain ⟨rfl, _⟩ := hPositive
          exact ⟨m, e, rfl, max_eq_right (mul_nonneg (by simp [signed]) (two_zpow_pos e).le)⟩
      next hOther =>
          rw [zero_lt_finite_iff, not_lt] at hOther
          have hSigned : (signed s m : ℚ) ≤ 0 := by exact_mod_cast hOther
          refine ⟨0, minExponent, rfl, ?_⟩
          rw [Nat.cast_zero, zero_mul]
          exact max_eq_left (mul_nonpos_of_nonpos_of_nonneg hSigned (two_zpow_pos e).le)

/-- The figure of a finite time. -/
theorem elapsedText_figure {x : Binary64} (hx : x.isFinite = true) :
    ∃ figure : Figure, elapsedText x = figure.text ∧ IsNearest (1 / 100) (max 0 x.value) figure.units ∧
      (Even figure.units → figure.hundredths ∈ ['0', '2', '4', '6', '8']) := by
  obtain ⟨m, e, hClamped, hMagnitude⟩ := exists_magnitude hx
  obtain ⟨figure, hText, hUnits, hEven⟩ := exists_figure (Binary64.hundredths m e)
  refine ⟨figure, ?_, ?_, hUnits ▸ hEven⟩
  · rw [elapsedText, hClamped, hText]
    rfl
  · rw [hMagnitude, hUnits]
    exact isNearest_hundredths m e

theorem Figure.value_eq (figure : Figure) : figure.value = (figure.units : Int) * (1 / 100) := by
  rw [Figure.value, Int.cast_natCast, mul_one_div]

/-- A longer time has no smaller figure. -/
theorem elapsedText_mono {x y : Binary64} {figure later : Figure} (hx : x.isFinite = true) (hy : y.isFinite = true)
    (h : x.value ≤ y.value) (hText : elapsedText x = figure.text) (hLater : elapsedText y = later.text) :
    figure.value ≤ later.value := by
  obtain ⟨shown, hShown, hNearest, _⟩ := elapsedText_figure hx
  obtain ⟨shownLater, hShownLater, hNearestLater, _⟩ := elapsedText_figure hy
  have hUnits : (shown.units : Int) ≤ shownLater.units :=
    hNearest.mono (by norm_num) hNearestLater (max_le_max_left 0 h)
  rw [Figure.units_eq_of_text_eq (hShown.symm.trans hText),
    Figure.units_eq_of_text_eq (hShownLater.symm.trans hLater)] at hUnits
  have hCast : (figure.units : ℚ) ≤ later.units := by exact_mod_cast hUnits
  rw [Figure.value, Figure.value]
  linarith

/-- A time without bound is shown in words. -/
theorem elapsedText_infinite_ne (figure : Figure) : elapsedText (.infinite false) ≠ figure.text := by
  intro hText
  have hPoint : '.' ∈ figure.text := by simp [Figure.text]
  rw [← hText] at hPoint
  exact absurd hPoint (by decide)

end QueryPlayground.Page
