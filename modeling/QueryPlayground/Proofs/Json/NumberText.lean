import QueryPlayground.Proofs.Json.Numeral

/-! The shape of written numbers. Integers and finite doubles are written as a sign, a row of digits,
and perhaps a fraction and an exponent with digits of their own. -/
namespace QueryPlayground.Json

open Binary64 (isAsciiDigit signText layout)

/-- A row of digits, not empty. -/
structure IsDigits (s : List Char) : Prop where
  nonempty : s ≠ []
  digit : ∀ c ∈ s, isAsciiDigit c = true

/-- A point with digits behind it, or nothing. -/
inductive IsFraction : List Char → Prop where
  | none : IsFraction []
  | point {digits : List Char} (hDigits : IsDigits digits) : IsFraction ('.' :: digits)

/-- An exponent with its sign and its digits, or nothing. -/
inductive IsExponent : List Char → Prop where
  | none : IsExponent []
  | power {sign : Char} {digits : List Char} (hSign : sign = '+' ∨ sign = '-') (hDigits : IsDigits digits) :
      IsExponent ('e' :: sign :: digits)

/-- The text of a number in its four parts. -/
inductive IsNumberText : List Char → Prop where
  | parts (negative : Bool) {whole fraction exponent : List Char} (hWhole : IsDigits whole)
      (hFraction : IsFraction fraction) (hExponent : IsExponent exponent) :
      IsNumberText (signText negative ++ (whole ++ (fraction ++ exponent)))

theorem isDigits_toDigits (n : Nat) : IsDigits (Nat.toDigits 10 n) :=
  ⟨Nat.toDigits_ne_nil, fun _ => isAsciiDigit_of_mem_toDigits⟩

theorem isAsciiDigit_of_mem_zeros {n : Nat} {c : Char} (h : c ∈ List.replicate n '0') :
    isAsciiDigit c = true := by
  rw [List.eq_of_mem_replicate h]
  decide

theorem IsDigits.zeros_append {digits : List Char} (h : IsDigits digits) (n : Nat) :
    IsDigits (List.replicate n '0' ++ digits) where
  nonempty := by simp [h.nonempty]
  digit c hc := (List.mem_append.mp hc).elim isAsciiDigit_of_mem_zeros (h.digit c)

theorem IsDigits.append_zeros {digits : List Char} (h : IsDigits digits) (n : Nat) :
    IsDigits (digits ++ List.replicate n '0') where
  nonempty := by simp [h.nonempty]
  digit c hc := (List.mem_append.mp hc).elim (h.digit c) isAsciiDigit_of_mem_zeros

theorem isDigits_zero : IsDigits ['0'] := ⟨by simp, List.forall_mem_singleton.mpr rfl⟩

theorem writeInt_isNumberText (n : Int) : IsNumberText (writeInt n) := by
  have h := IsNumberText.parts (n < 0) (isDigits_toDigits n.natAbs) .none .none
  simpa [writeInt] using h

/-- The digits of an exponent, filled up to two. -/
theorem isDigits_filled {size : List Char} (h : IsDigits size) :
    IsDigits (if size.length < 2 then '0' :: size else size) := by
  split
  · exact h.zeros_append 1
  · exact h

/-- Digits are laid out as a number, wherever their point lies: in front of them, behind them, among
them, or too far off, so that an exponent tells it. -/
theorem layout_isNumberText (negative : Bool) {digits : List Char} (h : IsDigits digits) (point : Int) :
    IsNumberText (signText negative ++ layout digits point) := by
  have hLength : 0 < digits.length := List.length_pos_iff.mpr h.nonempty
  simp only [layout]
  split
  · split
    · have hParts := IsNumberText.parts negative isDigits_zero
        (.point (h.zeros_append (-point).toNat)) .none
      simpa using hParts
    split
    · have hParts := IsNumberText.parts negative (h.append_zeros (point.toNat - digits.length))
        (.point isDigits_zero) .none
      simpa using hParts
    · have hWhole : IsDigits (digits.take point.toNat) := by
        refine ⟨?_, fun c hc => h.digit c (List.mem_of_mem_take hc)⟩
        simp only [ne_eq, List.take_eq_nil_iff, h.nonempty, or_false]
        omega
      have hPlaces : IsDigits (digits.drop point.toNat) := by
        refine ⟨?_, fun c hc => h.digit c (List.mem_of_mem_drop hc)⟩
        simp only [ne_eq, List.drop_eq_nil_iff]
        omega
      have hParts := IsNumberText.parts negative hWhole (.point hPlaces) .none
      simpa using hParts
  · have hPower : IsExponent ('e' :: (if point - 1 < 0 then '-' else '+') ::
        (if (Nat.toDigits 10 (point - 1).natAbs).length < 2 then '0' :: Nat.toDigits 10 (point - 1).natAbs
          else Nat.toDigits 10 (point - 1).natAbs)) := by
      refine .power ?_ (isDigits_filled (isDigits_toDigits _))
      split
      · exact Or.inr rfl
      · exact Or.inl rfl
    match digits, h with
    | [], h => exact absurd rfl h.nonempty
    | [d], h =>
        have hParts := IsNumberText.parts negative h .none hPower
        simpa using hParts
    | d :: next :: rest, h =>
        have hWhole : IsDigits [d] := ⟨by simp, fun c hc => h.digit c (by simp_all)⟩
        have hPlaces : IsDigits (next :: rest) :=
          ⟨by simp, fun c hc => h.digit c (List.mem_cons_of_mem _ hc)⟩
        have hParts := IsNumberText.parts negative hWhole (.point hPlaces) hPower
        simpa using hParts

/-- The text of a finite double is the text of a number. -/
theorem writeFloat_isNumberText {x : Binary64} (hx : x.isFinite = true) :
    IsNumberText (writeFloat x) := by
  cases x with
  | nan => cases hx
  | infinite negative => cases hx
  | finite negative m e =>
      simp only [writeFloat, Binary64.text]
      split
      · have hParts := IsNumberText.parts negative isDigits_zero (.point isDigits_zero) .none
        simpa using hParts
      · exact layout_isNumberText negative (isDigits_toDigits _) _

end QueryPlayground.Json
