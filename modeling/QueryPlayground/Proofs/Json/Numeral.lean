import QueryPlayground.Json.Reader
import QueryPlayground.Json.Writer

/-! Decimal numerals of integers. A written integer has no leading zero, so the reader takes the same
digits and no others, provided that what follows cannot carry the number on. -/
namespace QueryPlayground.Json

open Binary64

/-- A character that may follow a value: a comma, a closing bracket or a blank. -/
def isBreak (c : Char) : Bool := c == ',' || c == ']' || c == '\x7d' || isGap c

/-- A text that may follow a value. -/
def Breaks (rest : List Char) : Prop := ∀ c ∈ rest.head?, isBreak c = true

theorem breaks_nil : Breaks [] := by simp [Breaks]

theorem breaks_cons {c : Char} (rest : List Char) (h : isBreak c = true) : Breaks (c :: rest) := by
  simpa [Breaks] using h

theorem isAsciiDigit_eq_isDigit (c : Char) : isAsciiDigit c = c.isDigit := by
  simp [isAsciiDigit, Char.isDigit, Char.le_def]

theorem isAsciiDigit_of_mem_toDigits {n : Nat} {c : Char} (h : c ∈ Nat.toDigits 10 n) :
    isAsciiDigit c = true := by
  rw [isAsciiDigit_eq_isDigit]
  exact Nat.isDigit_of_mem_toDigits (by decide) (by decide) h

theorem isAsciiDigit_eq_false_of_isBreak {c : Char} (h : isBreak c = true) :
    isAsciiDigit c = false := by
  simp only [isBreak, isGap, Bool.or_eq_true, beq_iff_eq, or_assoc] at h
  rcases h with rfl | rfl | rfl | rfl | rfl | rfl | rfl <;> decide

theorem digitsValue_toDigits (n : Nat) : digitsValue (Nat.toDigits 10 n) = n :=
  Nat.ofDigitChars_ten_toDigits

theorem toDigits_head_ne_zero (n : Nat) (hn : 0 < n) : (Nat.toDigits 10 n).head? ≠ some '0' := by
  induction n using Nat.strongRecOn with
  | _ n ih =>
      by_cases hSmall : n < 10
      · have hDigit := Nat.toNat_digitChar_of_lt_ten hSmall
        rw [Nat.toDigits_of_lt_base hSmall, List.head?_cons, ne_eq, Option.some.injEq]
        intro hZero
        rw [hZero] at hDigit
        simp at hDigit
        omega
      · have hInit := ih (n / 10) (by omega) (by omega)
        rw [Nat.toDigits_of_base_le (by decide) (by omega)]
        cases hDigits : Nat.toDigits 10 (n / 10) with
        | nil => exact absurd hDigits Nat.toDigits_ne_nil
        | cons d digits => simpa [hDigits] using hInit

theorem Breaks.noDigit {rest : List Char} (h : Breaks rest) : ∀ c ∈ rest.head?, isAsciiDigit c = false :=
  fun c hc => isAsciiDigit_eq_false_of_isBreak (h c hc)

/-- The digits of a number end where no digit stands. -/
theorem takeWhile_digits_append {digits rest : List Char} (hDigits : ∀ c ∈ digits, isAsciiDigit c = true)
    (hRest : ∀ c ∈ rest.head?, isAsciiDigit c = false) :
    (digits ++ rest).takeWhile isAsciiDigit = digits := by
  rw [List.takeWhile_append_of_pos hDigits]
  cases rest with
  | nil => simp
  | cons c rest => simp [hRest c rfl]

theorem dropWhile_digits_append {digits rest : List Char} (hDigits : ∀ c ∈ digits, isAsciiDigit c = true)
    (hRest : ∀ c ∈ rest.head?, isAsciiDigit c = false) :
    (digits ++ rest).dropWhile isAsciiDigit = rest := by
  rw [List.dropWhile_append_of_pos hDigits]
  cases rest with
  | nil => rfl
  | cons c rest => simp [hRest c rfl]

theorem readFraction_of_breaks {rest : List Char} (hRest : Breaks rest) : readFraction rest = none := by
  cases rest with
  | nil => rfl
  | cons c rest =>
      have hPoint : c ≠ '.' := by
        rintro rfl
        exact absurd (hRest '.' rfl) (by decide)
      unfold readFraction
      split
      · simp_all
      · rfl

theorem readExponent_of_breaks {rest : List Char} (hRest : Breaks rest) : readExponent rest = none := by
  cases rest with
  | nil => rfl
  | cons c rest =>
      have hLetter : ¬(c = 'e' ∨ c = 'E') := by
        rintro (rfl | rfl) <;> exact absurd (hRest _ rfl) (by decide)
      simp [readExponent, hLetter]

/-- Digits that a break follows denote an integer, within the limit on its length. -/
theorem finishNumber_of_breaks (negative : Bool) {whole rest : List Char} (hRest : Breaks rest)
    (hLength : whole.length ≤ Text.maxIntegerDigits) :
    finishNumber negative whole rest = .ok (.int (signed negative (digitsValue whole)), rest) := by
  simp [finishNumber, readFraction_of_breaks hRest, readExponent_of_breaks hRest, hLength]

/-- A sign and a first digit start a number. -/
theorem readNumber_cons (negative : Bool) {d : Char} (hDigit : isAsciiDigit d = true) (s : List Char) :
    readNumber (signText negative ++ d :: s) =
      if d = '0' then finishNumber negative [d] s
      else finishNumber negative (d :: s.takeWhile isAsciiDigit) (s.dropWhile isAsciiDigit) := by
  have hMinus : d ≠ '-' := by
    rintro rfl
    exact absurd hDigit (by decide)
  cases negative <;> simp [readNumber, signText, hMinus, hDigit]

theorem readNumber_toDigits (negative : Bool) (n : Nat) {rest : List Char} (hRest : Breaks rest)
    (hLength : (Nat.toDigits 10 n).length ≤ Text.maxIntegerDigits) :
    readNumber (signText negative ++ (Nat.toDigits 10 n ++ rest)) =
      .ok (.int (signed negative n), rest) := by
  have hAll : ∀ c ∈ Nat.toDigits 10 n, isAsciiDigit c = true := fun c => isAsciiDigit_of_mem_toDigits
  have hValue := digitsValue_toDigits n
  rcases Nat.eq_zero_or_pos n with rfl | hPos
  · rw [Nat.toDigits_zero] at hLength ⊢
    rw [List.singleton_append, readNumber_cons negative (by decide), if_pos rfl]
    exact finishNumber_of_breaks negative hRest hLength
  · have hHead := toDigits_head_ne_zero n hPos
    cases hDigits : Nat.toDigits 10 n with
    | nil => exact absurd hDigits Nat.toDigits_ne_nil
    | cons d digits =>
        rw [hDigits] at hAll hHead hLength hValue
        have hZero : d ≠ '0' := by simpa using hHead
        have hTail : ∀ c ∈ digits, isAsciiDigit c = true := fun c hc => hAll c (by simp [hc])
        rw [List.cons_append, readNumber_cons negative (hAll d (by simp)), if_neg hZero,
          takeWhile_digits_append hTail hRest.noDigit, dropWhile_digits_append hTail hRest.noDigit,
          finishNumber_of_breaks negative hRest hLength, hValue]

theorem signed_natAbs (n : Int) : signed (n < 0) n.natAbs = n := by
  by_cases h : n < 0
  · simp only [signed, h, decide_true, ↓reduceIte]
    omega
  · simp only [signed, h, decide_false, Bool.false_eq_true, ↓reduceIte]
    omega

theorem isWritable_iff {n : Int} : Text.isWritable n = true ↔ n.natAbs < Nat.pow 10 Text.maxIntegerDigits := by
  unfold Text.isWritable
  generalize Text.maxIntegerDigits = limit
  exact decide_eq_true_iff

/-- Integers of one digit are writable. -/
theorem isWritable_of_lt {n : Int} (h : n.natAbs < 10) : Text.isWritable n = true := by
  have hLimit : Text.maxIntegerDigits ≠ 0 := by decide
  rw [isWritable_iff]
  generalize Text.maxIntegerDigits = limit at hLimit ⊢
  exact Nat.lt_of_lt_of_le h (Nat.le_self_pow hLimit 10)

/-- A writable integer is read back from its text. -/
theorem readNumber_writeInt {n : Int} {rest : List Char} (hn : Text.isWritable n = true)
    (hRest : Breaks rest) : readNumber (writeInt n ++ rest) = .ok (.int n, rest) := by
  have hLimit : 0 < Text.maxIntegerDigits := by decide
  have hLength : (Nat.toDigits 10 n.natAbs).length ≤ Text.maxIntegerDigits := by
    have hBound := isWritable_iff.mp hn
    generalize Text.maxIntegerDigits = limit at hLimit hBound ⊢
    exact (Nat.length_toDigits_le_iff (by decide) hLimit).mpr hBound
  rw [writeInt, List.append_assoc, readNumber_toDigits _ _ hRest hLength, signed_natAbs]

end QueryPlayground.Json
