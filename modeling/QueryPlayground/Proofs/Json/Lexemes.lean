import QueryPlayground.Proofs.Json.Grammar

/-! Strings and numerals, as they are read. The reader comes to the end of a string just where the grammar has
one. It takes as much of a numeral as there is, so that a numeral is read as a whole only in front of what may
follow a value. -/
namespace QueryPlayground.Json

open Binary64 (isAsciiDigit signText)

variable {standIn : Nat → Char} {s rest : List Char}

/-! ### Strings -/

theorem takesString_code_iff {a b c d : Char} :
    TakesString ('\\' :: 'u' :: a :: b :: c :: d :: s) rest ↔
      (∃ n, unit? a b c d = some n) ∧ TakesString s rest := by
  constructor
  · intro h
    cases h with
    | plain _ hSlash => exact absurd rfl hSlash
    | escape hEscape => cases hEscape
    | code hUnit h => exact ⟨⟨_, hUnit⟩, h⟩
  · rintro ⟨⟨n, hUnit⟩, h⟩
    exact .code hUnit h

theorem takesString_escape_iff {e : Char} (hCode : e ≠ 'u') :
    TakesString ('\\' :: e :: s) rest ↔ (∃ c, simpleEscape? e = some c) ∧ TakesString s rest := by
  constructor
  · intro h
    cases h with
    | plain _ hSlash => exact absurd rfl hSlash
    | escape hEscape h => exact ⟨⟨_, hEscape⟩, h⟩
    | code => exact absurd rfl hCode
  · rintro ⟨⟨c, hEscape⟩, h⟩
    exact .escape hEscape h

theorem takesString_plain_iff {c : Char} (hMark : c ≠ '"') (hSlash : c ≠ '\\') :
    TakesString (c :: s) rest ↔ ¬c.toNat < 0x20 ∧ TakesString s rest := by
  constructor
  · intro h
    cases h with
    | close => exact absurd rfl hMark
    | plain _ _ hControl h => exact ⟨hControl, h⟩
    | escape => exact absurd rfl hSlash
    | code => exact absurd rfl hSlash
  · rintro ⟨hControl, h⟩
    exact .plain hMark hSlash hControl h

theorem notTakesString_code (hShort : ∀ a b c d x t, s = a :: b :: c :: d :: x :: t → False) :
    ¬TakesString ('\\' :: 'u' :: s) rest := by
  intro h
  cases h with
  | plain _ hSlash => exact hSlash rfl
  | escape hEscape => cases hEscape
  | @code _ _ _ _ _ tail _ _ h =>
      cases tail with
      | nil => exact absurd h.length_lt (by simp)
      | cons x t => exact hShort _ _ _ _ _ _ rfl

/-- A string is read just where the grammar has one. -/
theorem readString_iff (start : Nat) (done s rest : List Char) :
    (∃ text, readString standIn start done s = .ok (text, rest)) ↔ TakesString s rest := by
  have hRefused (stop : Stop) : ¬∃ text : String, Except.error stop = Except.ok (text, rest) := by
    rintro ⟨text, h⟩
    cases h
  have hPlain {c : Char} {after : List Char} (hEnd : c = '\\' → after = [] → False)
      (hMore : ∀ x t, c = '\\' → after = x :: t → False) : c ≠ '\\' := by
    intro h
    cases after with
    | nil => exact hEnd h rfl
    | cons x t => exact hMore x t h rfl
  -- One case for each clause of the reader: where it refuses, no rule of the grammar fits.
  fun_induction readString standIn start done s with
  | case1 => exact iff_of_false (hRefused _) nofun
  | case2 done after =>
      constructor
      · rintro ⟨text, h⟩
        cases h
        exact .close _
      · intro h
        cases h with
        | close => exact ⟨_, rfl⟩
        | plain hMark => exact absurd rfl hMark
  | case3 done a b c d e f g h x after hUnit =>
      exact iff_of_false (hRefused _) (by simp [takesString_code_iff, hUnit])
  | case4 done a b c d e f g h x after high hUnit hHigh hUnit' =>
      exact iff_of_false (hRefused _) (by simp [takesString_code_iff, hUnit'])
  | case5 done a b c d e f g h x after high hUnit hHigh low hUnit' hLow ih =>
      simp [ih, takesString_code_iff, hUnit, hUnit']
  | case6 done a b c d e f g h x after high hUnit hHigh low hUnit' hLow ih =>
      refine ih.trans ?_
      rw [@takesString_code_iff _ _ a b c d]
      simp [hUnit]
  | case7 done a b c d e f g h x after unit hUnit hHigh ih =>
      refine ih.trans ?_
      rw [@takesString_code_iff _ _ a b c d]
      simp [hUnit]
  | case8 done a b c d x after hNext hUnit =>
      exact iff_of_false (hRefused _) (by simp [takesString_code_iff, hUnit])
  | case9 done a b c d x after hNext unit hUnit ih => simp [ih, takesString_code_iff, hUnit]
  | case10 done after hPair hShort => exact iff_of_false (hRefused _) (notTakesString_code hShort)
  | case11 done =>
      refine iff_of_false (hRefused _) fun h => ?_
      cases h with
      | plain _ hSlash => exact hSlash rfl
  | case12 done e after _ _ hCode c hEscape ih => simp [ih, takesString_escape_iff hCode, hEscape]
  | case13 done e after _ _ hCode hEscape =>
      exact iff_of_false (hRefused _) (by simp [takesString_escape_iff hCode, hEscape])
  | case14 done c after hMark _ _ _ hEnd hMore hControl =>
      exact iff_of_false (hRefused _) (by simp [takesString_plain_iff hMark (hPlain hEnd hMore), hControl])
  | case15 done c after hMark _ _ _ hEnd hMore hControl ih =>
      refine ih.trans ?_
      simp [takesString_plain_iff hMark (hPlain hEnd hMore), hControl]

/-! ### Numerals -/

theorem isDigits_cons {d : Char} (hd : isAsciiDigit d = true) (s : List Char) :
    IsDigits (d :: s.takeWhile isAsciiDigit) where
  nonempty := List.cons_ne_nil _ _
  digit := by
    intro c hc
    rcases List.mem_cons.mp hc with rfl | hc
    · exact hd
    · exact of_mem_takeWhile hc

theorem isFraction_of_readFraction {digits : List Char} (h : readFraction s = some (digits, rest)) :
    IsDigits digits ∧ s = '.' :: (digits ++ rest) := by
  unfold readFraction at h
  split at h
  next d after =>
      split at h
      next hd =>
          cases h
          exact ⟨isDigits_cons hd after, by rw [List.cons_append, List.takeWhile_append_dropWhile]⟩
      next => cases h
  next => cases h

theorem splitSign_eq (s : List Char) :
    ∃ sign, (sign = [] ∨ sign = ['+'] ∨ sign = ['-']) ∧ s = sign ++ (Text.splitSign s).2 := by
  unfold Text.splitSign
  split
  next => exact ⟨['-'], .inr (.inr rfl), rfl⟩
  next => exact ⟨['+'], .inr (.inl rfl), rfl⟩
  next => exact ⟨[], .inl rfl, rfl⟩

theorem isPower_of_readExponent {power : Int} (h : readExponent s = some (power, rest)) :
    ∃ text, IsPower text ∧ text ≠ [] ∧ s = text ++ rest := by
  unfold readExponent at h
  split at h
  next letter after =>
      split at h
      next hLetter =>
          obtain ⟨sign, hSign, hAfter⟩ := splitSign_eq after
          dsimp only at h
          split at h
          next => cases h
          next hRow =>
              have hDigits : IsDigits ((Text.splitSign after).2.takeWhile isAsciiDigit) :=
                ⟨fun hNil => hRow (by rw [hNil]; rfl), fun _ => of_mem_takeWhile⟩
              cases h
              refine ⟨_, .power hLetter hSign hDigits, List.cons_ne_nil _ _, ?_⟩
              rw [List.cons_append, List.append_assoc, List.takeWhile_append_dropWhile, ← hAfter]
      next => cases h
  next => cases h

theorem finishNumber_parts {negative : Bool} {whole : List Char} {v : Json}
    (h : finishNumber negative whole s = .ok (v, rest)) :
    ∃ fraction power, IsFraction fraction ∧ IsPower power ∧ s = fraction ++ (power ++ rest) ∧
      (fraction = [] → power = [] → whole.length ≤ Text.maxIntegerDigits) := by
  unfold finishNumber at h
  cases hFraction : readFraction s with
  | none =>
      cases hPower : readExponent s with
      | none =>
          simp only [hFraction, hPower, Option.elim_none] at h
          split at h
          next => cases h
          next hLimit =>
              cases h
              exact ⟨[], [], .none, .none, rfl, fun _ _ => Nat.le_of_not_lt hLimit⟩
      | some exponent =>
          obtain ⟨power, after⟩ := exponent
          obtain ⟨text, hText, hSome, hAfter⟩ := isPower_of_readExponent hPower
          simp only [hFraction, hPower, Option.elim_none] at h
          cases h
          exact ⟨[], text, .none, hText, hAfter, fun _ hNone => absurd hNone hSome⟩
  | some part =>
      obtain ⟨digits, after⟩ := part
      obtain ⟨hDigits, rfl⟩ := isFraction_of_readFraction hFraction
      cases hPower : readExponent after with
      | none =>
          simp only [hFraction, hPower, Option.elim_some] at h
          cases h
          exact ⟨'.' :: digits, [], .point hDigits, .none, rfl, nofun⟩
      | some exponent =>
          obtain ⟨power, rest⟩ := exponent
          obtain ⟨text, hText, _, rfl⟩ := isPower_of_readExponent hPower
          simp only [hFraction, hPower, Option.elim_some] at h
          cases h
          exact ⟨'.' :: digits, text, .point hDigits, hText, rfl, nofun⟩

theorem readNumber_head {v : Json} (h : readNumber s = .ok (v, rest)) :
    ∃ negative d after, isAsciiDigit d = true ∧ s = signText negative ++ d :: after := by
  unfold readNumber at h
  split at h
  next negative body hBody =>
      have hText : s = signText negative ++ body := by
        split at hBody <;> cases hBody <;> rfl
      cases body with
      | nil => cases h
      | cons d after =>
          refine ⟨negative, d, after, ?_, hText⟩
          dsimp only at h
          split at h
          next hZero => rw [hZero]; rfl
          next =>
              split at h
              next hd => exact hd
              next => cases h

theorem isNumeral_of_readNumber {v : Json} (h : readNumber s = .ok (v, rest)) :
    ∃ text, IsNumeral Text.maxIntegerDigits text ∧ s = text ++ rest := by
  obtain ⟨negative, d, after, hd, rfl⟩ := readNumber_head h
  rw [readNumber_cons negative hd] at h
  split at h
  next hZero =>
      obtain ⟨fraction, power, hFraction, hPower, rfl, hLimit⟩ := finishNumber_parts h
      subst hZero
      refine ⟨_, .parts negative isDigits_zero (fun _ => rfl) hFraction hPower hLimit, ?_⟩
      simp
  next hZero =>
      obtain ⟨fraction, power, hFraction, hPower, hAfter, hLimit⟩ := finishNumber_parts h
      have hSplit := List.takeWhile_append_dropWhile (p := isAsciiDigit) (l := after)
      refine ⟨_, .parts negative (isDigits_cons hd after) (fun hHead => ?_) hFraction hPower hLimit, ?_⟩
      · exact absurd (Option.some.inj hHead) hZero
      · rw [hAfter] at hSplit
        simp [hSplit]

/-- What stands behind an exponent's letter is a sign, if there is one, and digits. -/
theorem splitSign_append {sign digits : List Char} (hSign : sign = [] ∨ sign = ['+'] ∨ sign = ['-'])
    (hDigits : IsDigits digits) : (Text.splitSign (sign ++ (digits ++ rest))).2 = digits ++ rest := by
  rcases hSign with rfl | rfl | rfl
  · obtain ⟨d, after, rfl⟩ := List.exists_cons_of_ne_nil hDigits.nonempty
    have hd := hDigits.digit d List.mem_cons_self
    simp only [List.nil_append, List.cons_append]
    unfold Text.splitSign
    split
    next hText =>
        cases hText
        exact absurd hd (by decide)
    next hText =>
        cases hText
        exact absurd hd (by decide)
    next => rfl
  · rfl
  · rfl

theorem readExponent_append {power : List Char} (hPower : IsPower power) (hRest : Breaks rest) :
    (power = [] ∧ readExponent (power ++ rest) = none) ∨
      ∃ exponent, readExponent (power ++ rest) = some (exponent, rest) := by
  cases hPower with
  | none => exact .inl ⟨rfl, readExponent_of_breaks hRest⟩
  | @power letter sign digits hLetter hSign hDigits =>
      have hSplit : (Text.splitSign (sign ++ (digits ++ rest))).2 = digits ++ rest :=
        splitSign_append hSign hDigits
      cases hText : Text.splitSign (sign ++ (digits ++ rest)) with
      | mk negative after =>
          rw [hText] at hSplit
          obtain rfl : after = digits ++ rest := hSplit
          let power : Int := Binary64.digitsValue digits
          refine .inr ⟨if negative then -power else power, ?_⟩
          rw [List.cons_append, List.append_assoc, readExponent, if_pos hLetter, hText]
          simp only [takeWhile_digits_append hDigits.digit hRest.noDigit,
            dropWhile_digits_append hDigits.digit hRest.noDigit]
          rw [if_neg (by simpa using hDigits.nonempty)]

/-- What may follow the whole part of a numeral and its fraction is no digit and no point. -/
theorem IsPower.head_append {power : List Char} (hPower : IsPower power) (hRest : Breaks rest) :
    ∀ c ∈ (power ++ rest).head?, isAsciiDigit c = false ∧ c ≠ '.' := by
  cases hPower with
  | none =>
      intro c hc
      refine ⟨hRest.noDigit c hc, ?_⟩
      rintro rfl
      exact absurd (hRest _ hc) (by decide)
  | power hLetter =>
      rintro c ⟨⟩
      rcases hLetter with rfl | rfl <;> decide

theorem readFraction_append {fraction : List Char} (hFraction : IsFraction fraction)
    (hRest : ∀ c ∈ rest.head?, isAsciiDigit c = false ∧ c ≠ '.') :
    (fraction = [] ∧ readFraction (fraction ++ rest) = none) ∨
      ∃ digits, readFraction (fraction ++ rest) = some (digits, rest) := by
  cases hFraction with
  | none =>
      refine .inl ⟨rfl, ?_⟩
      unfold readFraction
      split
      next hText => exact absurd rfl (hRest '.' (by rw [← List.nil_append rest, hText]; rfl)).2
      next => rfl
  | @point digits hDigits =>
      obtain ⟨d, after, rfl⟩ := List.exists_cons_of_ne_nil hDigits.nonempty
      have hAfter : ∀ c ∈ after, isAsciiDigit c = true := fun c hc =>
        hDigits.digit c (List.mem_cons_of_mem _ hc)
      have hNoDigit : ∀ c ∈ rest.head?, isAsciiDigit c = false := fun c hc => (hRest c hc).1
      refine .inr ⟨d :: after, ?_⟩
      rw [List.cons_append, List.cons_append, readFraction, if_pos (hDigits.digit d List.mem_cons_self),
        takeWhile_digits_append hAfter hNoDigit, dropWhile_digits_append hAfter hNoDigit]

theorem finishNumber_append (negative : Bool) {whole fraction power : List Char}
    (hFraction : IsFraction fraction) (hPower : IsPower power)
    (hLimit : fraction = [] → power = [] → whole.length ≤ Text.maxIntegerDigits) (hRest : Breaks rest) :
    ∃ v, finishNumber negative whole (fraction ++ (power ++ rest)) = .ok (v, rest) := by
  unfold finishNumber
  rcases readFraction_append hFraction (hPower.head_append hRest) with ⟨rfl, hNone⟩ | ⟨digits, hSome⟩
  · rw [hNone]
    rcases readExponent_append hPower hRest with ⟨rfl, hNone'⟩ | ⟨exponent, hSome⟩
    · simp only [List.nil_append, Option.elim_none] at hNone' ⊢
      rw [hNone', if_neg (Nat.not_lt.mpr (hLimit rfl rfl))]
      exact ⟨_, rfl⟩
    · simp only [List.nil_append, Option.elim_none]
      rw [hSome]
      exact ⟨_, rfl⟩
  · rw [hSome]
    simp only [Option.elim_some]
    rcases readExponent_append hPower hRest with ⟨rfl, hNone⟩ | ⟨exponent, hSome'⟩
    · rw [hNone]
      exact ⟨_, rfl⟩
    · rw [hSome']
      exact ⟨_, rfl⟩

theorem IsFraction.head_append {fraction : List Char} (hFraction : IsFraction fraction)
    (hRest : ∀ c ∈ rest.head?, isAsciiDigit c = false) :
    ∀ c ∈ (fraction ++ rest).head?, isAsciiDigit c = false := by
  cases hFraction with
  | none => exact hRest
  | point =>
      rintro c ⟨⟩
      rfl

/-- A numeral is read up to its end, if what follows it ends a value. -/
theorem IsNumeral.reads {text : List Char} (h : IsNumeral Text.maxIntegerDigits text) (hRest : Breaks rest) :
    ∃ v, readNumber (text ++ rest) = .ok (v, rest) := by
  cases h with
  | @parts negative whole fraction power hWhole hLead hFraction hPower hLimit =>
      obtain ⟨d, after, rfl⟩ := List.exists_cons_of_ne_nil hWhole.nonempty
      have hd := hWhole.digit d List.mem_cons_self
      simp only [List.append_assoc, List.cons_append]
      rw [readNumber_cons negative hd]
      by_cases hZero : d = '0'
      · subst hZero
        obtain rfl : after = [] := (List.cons.inj (hLead rfl)).2
        exact finishNumber_append negative hFraction hPower hLimit hRest
      · have hAfter : ∀ c ∈ after, isAsciiDigit c = true := fun c hc =>
          hWhole.digit c (List.mem_cons_of_mem _ hc)
        have hNoDigit := hFraction.head_append fun c hc => (hPower.head_append hRest c hc).1
        rw [if_neg hZero, takeWhile_digits_append hAfter hNoDigit, dropWhile_digits_append hAfter hNoDigit]
        exact finishNumber_append negative hFraction hPower hLimit hRest

end QueryPlayground.Json
