import QueryPlayground.Binary64.Reading
import QueryPlayground.Proofs.Text.Trim
import QueryPlayground.Text.IntegerText

/-! Rows of ASCII digits as texts of integers. Nothing around them is trimmed, and there is no sign, no mark of a
base and no gap in them; so a row of digits denotes an integer unless it is too long. -/
namespace QueryPlayground.Text

open Binary64 (isAsciiDigit)

/-- The ASCII digits are ten characters in a row. -/
theorem exists_digit {c : Char} (h : isAsciiDigit c = true) : ∃ d < 10, c = Char.ofNat (48 + d) := by
  have hBounds : 48 ≤ c.toNat ∧ c.toNat ≤ 57 := by
    simp only [isAsciiDigit, Bool.and_eq_true, decide_eq_true_eq, Char.le_def, UInt32.le_iff_toNat_le] at h
    exact h
  refine ⟨c.toNat - 48, by omega, ?_⟩
  rw [Nat.add_sub_cancel' hBounds.1, Char.ofNat_toNat]

/-- What a digit is to the reader of integers: no blank, no sign, no gap, and itself. -/
structure IsPlainDigit (c : Char) : Prop where
  margin : isMargin c = false
  sign : c ≠ '-' ∧ c ≠ '+'
  gap : c ≠ '_'
  value : digitValue? c = some (c.toNat - 48)
  digit : (digitOf? 10 c).isSome = true

theorem isPlainDigit {c : Char} (h : isAsciiDigit c = true) : IsPlainDigit c ∧ 48 ≤ c.toNat := by
  obtain ⟨d, hDigit, rfl⟩ := exists_digit h
  have hAll : ∀ d < 10, (isMargin (Char.ofNat (48 + d)) = false ∧ Char.ofNat (48 + d) ≠ '-' ∧
      Char.ofNat (48 + d) ≠ '+' ∧ Char.ofNat (48 + d) ≠ '_' ∧
      digitValue? (Char.ofNat (48 + d)) = some ((Char.ofNat (48 + d)).toNat - 48) ∧
      (digitOf? 10 (Char.ofNat (48 + d))).isSome = true) ∧ 48 ≤ (Char.ofNat (48 + d)).toNat := by decide +kernel
  obtain ⟨⟨hMargin, hMinus, hPlus, hGap, hValue, hIsDigit⟩, hBound⟩ := hAll d hDigit
  exact ⟨⟨hMargin, ⟨hMinus, hPlus⟩, hGap, hValue, hIsDigit⟩, hBound⟩

variable {digits : List Char}

theorem trimBy_digits (h : ∀ c ∈ digits, isAsciiDigit c = true) : trimBy isMargin digits = digits := by
  refine TrimsTo.trimBy_eq ⟨⟨[], [], by simp, by simp, by simp⟩, fun c hc => ?_, fun c hc => ?_⟩
  · exact (isPlainDigit (h c (List.mem_of_mem_head? hc))).1.margin
  · exact (isPlainDigit (h c (List.mem_of_mem_getLast? hc))).1.margin

theorem plainDigits_digits (h : ∀ c ∈ digits, isAsciiDigit c = true) : plainDigits digits = digits := by
  unfold plainDigits
  refine (List.map_congr_left fun c hc => ?_).trans (List.map_id' digits)
  obtain ⟨hPlain, hBound⟩ := isPlainDigit (h c hc)
  rw [hPlain.value]
  dsimp only
  rw [Nat.add_sub_cancel' hBound, Char.ofNat_toNat]

theorem splitSign_digits (h : ∀ c ∈ digits, isAsciiDigit c = true) : splitSign digits = (false, digits) := by
  cases digits with
  | nil => rfl
  | cons c digits =>
      obtain ⟨hMinus, hPlus⟩ := (isPlainDigit (h c List.mem_cons_self)).1.sign
      unfold splitSign
      split
      next hEq => exact absurd (List.cons.inj hEq).1 hMinus
      next hEq => exact absurd (List.cons.inj hEq).1 hPlus
      next => rfl

theorem pieces_digits (h : ∀ c ∈ digits, isAsciiDigit c = true) : pieces '_' digits = [digits] := by
  induction digits with
  | nil => rfl
  | cons c digits ih =>
      rw [pieces, if_neg (isPlainDigit (h c List.mem_cons_self)).1.gap,
        ih fun other hOther => h other (List.mem_cons_of_mem _ hOther)]

/-- A row of digits is refused only for its length. -/
theorem readInteger_digits (h : ∀ c ∈ digits, isAsciiDigit c = true) (hSome : digits ≠ []) {fault : IntegerFault}
    (hFault : readInteger 10 digits = .error fault) :
    fault = .tooLong digits.length ∧ maxIntegerDigits < digits.length := by
  have hRun : digits.takeWhile (fun c => c == '_' || (digitOf? 10 c).isSome) = digits :=
    List.takeWhile_eq_self_iff.mpr fun c hc => by rw [(isPlainDigit (h c hc)).1.digit, Bool.or_true]
  have hMark : dropBaseMark 10 digits = digits := by
    unfold dropBaseMark
    split
    next => rfl
    next => rfl
  unfold readInteger at hFault
  simp only [trimBy_digits h, plainDigits_digits h, splitSign_digits h, hMark, hRun, pieces_digits h] at hFault
  simp only [List.any_cons, List.isEmpty_eq_false_iff.mpr hSome, List.any_nil, Bool.or_false, Bool.false_eq_true,
    if_false, List.flatten_cons, List.flatten_nil, List.append_nil, true_and, Nat.lt_irrefl] at hFault
  split at hFault
  next hLong =>
      cases hFault
      exact ⟨rfl, hLong⟩
  next => cases hFault

end QueryPlayground.Text
