import QueryPlayground.Proofs.Binary64.Order
import QueryPlayground.Proofs.Page.Elapsed
import QueryPlayground.Session.Dispatch

/-! How long a dispatch took. The time between two readings of the clock is rounded twice, once as a difference and
once in milliseconds, and set to zero if it is negative. None of this turns two dispatches round, so the badge of
the longer one has no smaller figure. -/
namespace QueryPlayground

open Binary64 Page

namespace Completion

/-- The clock was read as a number of seconds, both times. -/
def Clocked (done : Completion) : Prop := done.ticket.started.isFinite = true ∧ done.finished.isFinite = true

/-- The time between the two readings, as it is before any rounding. -/
def duration (done : Completion) : ℚ := done.finished.value - done.ticket.started.value

variable {done longer : Completion}

/-- A longer dispatch has no shorter elapsed time. -/
theorem elapsed_mono (hDone : done.Clocked) (hLonger : longer.Clocked) (h : done.duration ≤ longer.duration) :
    done.elapsed.le longer.elapsed = true := by
  obtain ⟨hThousand, hValue⟩ := ofInt_exact (n := 1000) (by decide)
  have hPositive : 0 < (ofInt 1000).value := by
    rw [hValue]
    norm_num
  have hDifference : (done.finished - done.ticket.started).le (longer.finished - longer.ticket.started) = true :=
    (roundsTo_sub hDone.2 hDone.1).mono (roundsTo_sub hLonger.2 hLonger.1) h
  exact clampToZero_le (mul_le_mul_of_le hDifference hThousand.isFinite hPositive)

/-- A longer dispatch has no smaller figure. -/
theorem figure_mono {figure later : Figure} (hDone : done.Clocked) (hLonger : longer.Clocked)
    (h : done.duration ≤ longer.duration) (hText : elapsedText done.elapsed = figure.text)
    (hLater : elapsedText longer.elapsed = later.text) : figure.value ≤ later.value := by
  have hOrder : done.elapsed.le longer.elapsed = true := elapsed_mono hDone hLonger h
  have hFinite : done.elapsed.isFinite = true := (clampToZero_cases _).resolve_right fun hInfinite =>
    elapsedText_infinite_ne figure (hInfinite ▸ hText)
  have hFiniteLonger : longer.elapsed.isFinite = true := (clampToZero_cases _).resolve_right fun hInfinite =>
    elapsedText_infinite_ne later (hInfinite ▸ hLater)
  exact elapsedText_mono hFinite hFiniteLonger ((le_iff_value_le hFinite hFiniteLonger).mp hOrder) hText hLater

end Completion

/-- A finite time is shown as a figure, the one nearest to it or to zero if it is negative. Where two are equally
near it ends in an even digit. It is off by half a hundredth at most, and a longer time has no smaller one. -/
theorem elapsedText_nearest {x : Binary64} (hx : x.isFinite = true) :
    ∃ figure : Figure, elapsedText x = figure.text ∧
      (∀ succeeded, badge x succeeded =
        (if succeeded then "⚡ ".toList else "❌ ".toList) ++ figure.text ++ "ms".toList) ∧
      (∀ n : Int, (n / 100 : ℚ) ≠ figure.value →
        |max 0 x.value - figure.value| < |max 0 x.value - n / 100| ∨
          |max 0 x.value - figure.value| = |max 0 x.value - n / 100| ∧
            figure.hundredths ∈ ['0', '2', '4', '6', '8']) ∧
      |figure.value - max 0 x.value| ≤ 5 / 1000 ∧
      (∀ (y : Binary64) (later : Figure), y.isFinite = true → x.value ≤ y.value → elapsedText y = later.text →
        figure.value ≤ later.value) ∧
      ∀ (done longer : Completion) (later : Figure), done.elapsed = x → done.Clocked → longer.Clocked →
        done.duration ≤ longer.duration → elapsedText longer.elapsed = later.text → figure.value ≤ later.value := by
  obtain ⟨figure, hText, hNearest, hEven⟩ := elapsedText_figure hx
  refine ⟨figure, hText, ?_, ?_, ?_, fun y later hy hOrder => elapsedText_mono hx hy hOrder hText, ?_⟩
  · intro succeeded
    rw [← hText]
    cases succeeded <;> rfl
  · intro n hOther
    rw [← mul_one_div, figure.value_eq] at hOther ⊢
    have hUnits : n ≠ figure.units := by
      rintro rfl
      exact hOther rfl
    refine (hNearest n hUnits).imp_right fun ⟨hTie, hUnitsEven⟩ => ⟨hTie, hEven ?_⟩
    exact_mod_cast hUnitsEven
  · have hHalf := hNearest.two_mul_abs_le (by norm_num)
    rw [figure.value_eq, abs_sub_comm]
    linarith
  · rintro done longer later rfl hDone hLonger hOrder
    exact Completion.figure_mono hDone hLonger hOrder hText

/-- An eighth, which is half way between two hundredths, and a time whose hundredths are carried. -/
theorem elapsedText_nearest_eighth :
    (finite false 1 (-3)).isFinite = true ∧ (finite false 10239 (-10)).isFinite = true ∧
      ∃ figure later : Figure, figure.text = "0.12".toList ∧ later.text = "10.00".toList ∧
        elapsedText (.finite false 1 (-3)) = figure.text ∧ elapsedText (.finite false 10239 (-10)) = later.text ∧
        |figure.value - max 0 (finite false 1 (-3)).value| ≤ 5 / 1000 ∧ figure.value ≤ later.value := by
  obtain ⟨later, hLater, _⟩ := elapsedText_nearest (x := .finite false 10239 (-10)) rfl
  obtain ⟨figure, hText, _, _, hOff, hOrder, _⟩ := elapsedText_nearest (x := .finite false 1 (-3)) rfl
  refine ⟨rfl, rfl, figure, later, ?_, ?_, hText, hLater, hOff, hOrder _ later rfl ?_ hLater⟩
  · rw [← hText]
    decide +kernel
  · rw [← hLater]
    decide +kernel
  · norm_num [value, signed]

end QueryPlayground
