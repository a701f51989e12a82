import QueryPlayground.Proofs.Json.NumberText
import QueryPlayground.Proofs.Page.Tokens
import Mathlib.Tactic.SplitIfs

/-! Literals as tokens. A written string reaches from its opening mark to its closing one, whatever it
holds; a written number reaches to the end of its digits, fraction and exponent; the three words stand
alone. Each of them is one token of its kind wherever it is followed by layout. -/
namespace QueryPlayground.Highlight

open Json (writeString escapeChar unitEscape codeEscape IsDigits IsFraction IsExponent IsNumberText)
open Binary64 (isAsciiDigit)

/-- What may follow a literal: layout, which carries neither a number nor a word on, and no colon. -/
structure Stops (s : List Char) : Prop where
  head : ∀ c ∈ s.head?, isLayout c = true
  colon : colonReach s = 0

theorem stops_nil : Stops [] := ⟨by simp, rfl⟩

theorem colonReach_of_ne {c : Char} (hBlank : Text.isBlank c = false) (hColon : c ≠ ':') (s : List Char) :
    colonReach (c :: s) = 0 := by
  simp only [colonReach, List.dropWhile_cons, hBlank, Bool.false_eq_true, ↓reduceIte]
  split
  · simp_all
  · rfl

/-- Blanks do not hide what stands behind them from a string that looks for its colon. -/
theorem colonReach_append {gap s : List Char} (hGap : ∀ c ∈ gap, Text.isBlank c = true)
    (h : colonReach s = 0) : colonReach (gap ++ s) = 0 := by
  unfold colonReach at h ⊢
  rw [List.dropWhile_append_of_pos hGap]
  split
  next rest hRest => simp [hRest] at h
  next => rfl

theorem stops_append {gap s : List Char} (hLayout : ∀ c ∈ gap, isLayout c = true)
    (hBlank : ∀ c ∈ gap, Text.isBlank c = true) (h : Stops s) : Stops (gap ++ s) := by
  refine ⟨?_, colonReach_append hBlank h.colon⟩
  cases gap with
  | nil => exact h.head
  | cons c gap => simpa using hLayout c (by simp)

/-! ### Strings -/

theorem isCodeChar_hexDigit : ∀ n < 16, isCodeChar (Text.hexDigit n) = true := by
  decide

/-- The escape of a unit is passed over as a whole. -/
theorem stringReach?_unitEscape (n : Nat) (s : List Char) :
    stringReach? (unitEscape n ++ s) = (stringReach? s).map (· + 6) := by
  have hDigit : ∀ k, isCodeChar (Text.hexDigit (k % 16)) = true :=
    fun k => isCodeChar_hexDigit _ (Nat.mod_lt k (by decide))
  simp [unitEscape, Text.hexDigits, stringReach?, hDigit]

theorem length_unitEscape (n : Nat) : (unitEscape n).length = 6 := rfl

theorem stringReach?_codeEscape (n : Nat) (s : List Char) :
    stringReach? (codeEscape n ++ s) = (stringReach? s).map (· + (codeEscape n).length) := by
  unfold codeEscape
  split_ifs
  · exact stringReach?_unitEscape n s
  · rw [List.append_assoc, stringReach?_unitEscape, stringReach?_unitEscape, Option.map_map,
      List.length_append, length_unitEscape, length_unitEscape]
    rfl

theorem stringReach?_simpleEscape {e : Char} (he : e ≠ 'u') (s : List Char) :
    stringReach? ('\\' :: e :: s) = (stringReach? s).map (· + 2) := by
  rw [stringReach?.eq_5 _ _ (fun _ _ _ _ _ h => absurd h he) he]

theorem stringReach?_plain {c : Char} (hMark : c ≠ '"') (hSlash : c ≠ '\\') (s : List Char) :
    stringReach? (c :: s) = (stringReach? s).map (· + 1) := by
  apply stringReach?.eq_7
  · exact hMark
  all_goals intros; contradiction

/-- One written character of a string is passed over as a whole, be it an escape or not. -/
theorem stringReach?_escapeChar (asciiOnly : Bool) (c : Char) (s : List Char) :
    stringReach? (escapeChar asciiOnly c ++ s) =
      (stringReach? s).map (· + (escapeChar asciiOnly c).length) := by
  unfold escapeChar
  split_ifs with hMark hSlash
  · exact stringReach?_simpleEscape (by decide) s
  · exact stringReach?_simpleEscape (by decide) s
  · exact stringReach?_simpleEscape (by decide) s
  · exact stringReach?_simpleEscape (by decide) s
  · exact stringReach?_simpleEscape (by decide) s
  · exact stringReach?_simpleEscape (by decide) s
  · exact stringReach?_simpleEscape (by decide) s
  · exact stringReach?_codeEscape c.toNat s
  · exact stringReach?_plain hMark hSlash s

/-- A written string ends at its closing mark. Marks inside it are escaped, so that none of them ends
it earlier. -/
theorem stringReach?_escapeChars (asciiOnly : Bool) (chars s : List Char) :
    stringReach? (chars.flatMap (escapeChar asciiOnly) ++ '"' :: s) =
      some ((chars.flatMap (escapeChar asciiOnly)).length + 1) := by
  induction chars with
  | nil => simp [stringReach?]
  | cons c chars ih =>
      rw [List.flatMap_cons, List.append_assoc, stringReach?_escapeChar, ih, Option.map_some,
        List.length_append]
      congr 1
      omega

/-- A string takes the colon behind it along. -/
theorem tagReach?_string (afterWord asciiOnly : Bool) (chars s : List Char) :
    tagReach? afterWord '"' (chars.flatMap (escapeChar asciiOnly) ++ '"' :: s) =
      some ((chars.flatMap (escapeChar asciiOnly)).length + 1 + colonReach s) := by
  have hDrop : (chars.flatMap (escapeChar asciiOnly) ++ '"' :: s).drop
      ((chars.flatMap (escapeChar asciiOnly)).length + 1) = s := by
    rw [← List.drop_drop, List.drop_left]
    rfl
  rw [tagReach?, if_pos rfl, stringReach?_escapeChars, Option.map_some, hDrop]

/-- The last character tells a key from a string. -/
theorem classify_marked (body : List Char) (c : Char) :
    classify ('"' :: (body ++ [c])) = if c = ':' then .key else .string := by
  rw [classify, List.head?_cons, if_pos rfl, ← List.cons_append, List.getLast?_concat]
  simp only [Option.some.injEq]

/-- A written string that is not followed by a colon is one string token. -/
theorem isToken_string {s : List Char} (hColon : colonReach s = 0) (asciiOnly : Bool) (string : String) :
    IsToken (writeString asciiOnly string) .string s := by
  have hString := tagReach?_string false asciiOnly string.toList s
  rw [hColon, List.append_cons] at hString
  have hToken := isToken_of_reach (hString.trans (by simp))
  rwa [classify_marked] at hToken

/-- A written string with a colon behind it is one key token, the colon included. -/
theorem isToken_key (asciiOnly : Bool) (name : String) (s : List Char) :
    IsToken (writeString asciiOnly name ++ [':']) .key s := by
  have hColon : colonReach (':' :: s) = 1 := by
    simp [colonReach, show Text.isBlank ':' = false from rfl]
  have hString := tagReach?_string false asciiOnly name.toList (':' :: s)
  rw [hColon, List.append_cons, List.append_cons _ ':' s] at hString
  have hToken := isToken_of_reach (hString.trans (by simp))
  rwa [classify_marked] at hToken

theorem Continues.string_append {s : List Char} {marks : List Token} (hStops : Stops s)
    (h : Continues s marks) (asciiOnly : Bool) (string : String) :
    Shows (tokensFrom false (writeString asciiOnly string ++ s))
      (⟨writeString asciiOnly string, some .string⟩ :: marks) :=
  h.token_append (isToken_string hStops.colon asciiOnly string)

theorem Continues.key_append {s : List Char} {marks : List Token} (h : Continues s marks)
    (asciiOnly : Bool) (name : String) :
    Shows (tokensFrom false (writeString asciiOnly name ++ ':' :: s))
      (⟨writeString asciiOnly name ++ [':'], some .key⟩ :: marks) := by
  rw [List.append_cons]
  exact h.token_append (isToken_key asciiOnly name s)

/-! ### Numbers -/

theorem isDigit_of_isAsciiDigit {c : Char} (h : isAsciiDigit c = true) : Text.isDigit c = true := by
  simp only [isAsciiDigit, Bool.and_eq_true, decide_eq_true_eq, Char.le_def, UInt32.le_iff_toNat_le] at h
  have hLow : 48 ≤ c.toNat := h.1
  have hHigh : c.toNat ≤ 57 := h.2
  have hValue : Text.digitValue? c = some (c.toNat - 0x30) := by
    simp only [Text.digitValue?]
    rw [if_pos (by omega), if_pos (by omega)]
  rw [Text.isDigit, hValue, Option.isSome_some]

theorem isDigit_layout {c : Char} (hc : isLayout c = true) : Text.isDigit c = false := by
  rcases isLayout_iff.mp hc with rfl | rfl | rfl | rfl | rfl | rfl | rfl <;> rfl

/-- A row of digits reaches up to the first character that is none. -/
theorem digitReach_append {digits s : List Char} (hDigits : ∀ c ∈ digits, isAsciiDigit c = true)
    (hStop : ∀ c ∈ s.head?, Text.isDigit c = false) : digitReach (digits ++ s) = digits.length := by
  rw [digitReach, List.takeWhile_append_of_pos fun c hc => isDigit_of_isAsciiDigit (hDigits c hc)]
  cases s with
  | nil => simp
  | cons c s => simp [hStop c rfl]

/-- An exponent reaches up to the layout behind it. -/
theorem exponentReach_append {exponent s : List Char} (hExponent : IsExponent exponent)
    (hStops : Stops s) : exponentReach (exponent ++ s) = exponent.length := by
  cases hExponent with
  | none =>
      cases s with
      | nil => rfl
      | cons c s =>
          rcases isLayout_iff.mp (hStops.head c rfl) with rfl | rfl | rfl | rfl | rfl | rfl | rfl <;> rfl
  | @power sign digits hSign hDigits =>
      have hReach := digitReach_append hDigits.digit fun c hc => isDigit_layout (hStops.head c hc)
      have hLength : digits.length ≠ 0 := by simpa using hDigits.nonempty
      rcases hSign with rfl | rfl <;> simp [exponentReach, hReach, hLength]

theorem isDigit_head_exponent {exponent s : List Char} (hExponent : IsExponent exponent)
    (hStops : Stops s) : ∀ c ∈ (exponent ++ s).head?, Text.isDigit c = false ∧ c ≠ '.' := by
  intro c hc
  cases hExponent with
  | none =>
      have hLayout := hStops.head c hc
      refine ⟨isDigit_layout hLayout, ?_⟩
      rintro rfl
      exact absurd hLayout (by decide)
  | power hSign hDigits =>
      rw [List.cons_append, List.head?_cons, Option.mem_some] at hc
      subst hc
      exact ⟨rfl, by decide⟩

theorem fractionReach_of_ne {s : List Char} (h : ∀ c ∈ s.head?, c ≠ '.') : fractionReach s = 0 := by
  unfold fractionReach
  split
  · exact absurd rfl (h '.' rfl)
  · rfl

/-- The fraction and the exponent of a number are passed over as a whole. -/
theorem afterDigitsReach_append {fraction exponent s : List Char} (hFraction : IsFraction fraction)
    (hExponent : IsExponent exponent) (hStops : Stops s) :
    afterDigitsReach (fraction ++ (exponent ++ s)) = fraction.length + exponent.length := by
  have hHead := isDigit_head_exponent hExponent hStops
  have hPower := exponentReach_append hExponent hStops
  cases hFraction with
  | none =>
      have hPoint := fractionReach_of_ne fun c hc => (hHead c hc).2
      simp [afterDigitsReach, hPoint, hPower]
  | @point digits hDigits =>
      have hReach := digitReach_append hDigits.digit fun c hc => (hHead c hc).1
      simp [afterDigitsReach, fractionReach, hReach, hPower]

theorem isDigit_head_fraction {fraction exponent s : List Char} (hFraction : IsFraction fraction)
    (hExponent : IsExponent exponent) (hStops : Stops s) :
    ∀ c ∈ (fraction ++ (exponent ++ s)).head?, Text.isDigit c = false := by
  cases hFraction with
  | none => exact fun c hc => (isDigit_head_exponent hExponent hStops c hc).1
  | point hDigits =>
      intro c hc
      rw [List.cons_append, List.head?_cons, Option.mem_some] at hc
      subst hc
      rfl

theorem tagReach?_digit (afterWord : Bool) {d : Char} (hd : isAsciiDigit d = true) (s : List Char) :
    tagReach? afterWord d s = some (digitReach s + afterDigitsReach (s.drop (digitReach s))) := by
  have hOther : ∀ c, isAsciiDigit c = false → d ≠ c := by
    rintro c hc rfl
    rw [hd] at hc
    cases hc
  rw [tagReach?, if_neg (hOther _ (by decide)), if_neg (hOther _ (by decide)),
    if_pos (isDigit_of_isAsciiDigit hd)]

theorem classify_number {d : Char} (hd : d = '-' ∨ isAsciiDigit d = true) (text : List Char) :
    classify (d :: text) = .number := by
  have hOther : ∀ c, c ≠ '-' → isAsciiDigit c = false → d ≠ c := by
    rintro c hMinus hc rfl
    exact hd.elim hMinus fun hDigit => by simp [hc] at hDigit
  simp [classify, hOther '"' (by decide) (by decide), hOther 't' (by decide) (by decide),
    hOther 'f' (by decide) (by decide), hOther 'n' (by decide) (by decide)]

/-- A written number is one number token. -/
theorem isToken_number {text s : List Char} (hText : IsNumberText text) (hStops : Stops s) :
    IsToken text .number s := by
  obtain ⟨negative, hWhole, hFraction, hExponent⟩ := hText
  rename_i whole fraction exponent
  have hTail := afterDigitsReach_append hFraction hExponent hStops
  have hHead := isDigit_head_fraction hFraction hExponent hStops
  cases negative with
  | true =>
      have hDigits := digitReach_append hWhole.digit hHead
      have hLength : whole.length ≠ 0 := by simpa using hWhole.nonempty
      have hReach : tagReach? false '-' (whole ++ (fraction ++ exponent) ++ s) =
          some (whole ++ (fraction ++ exponent)).length := by
        simp only [List.append_assoc] at *
        simp [tagReach?, hDigits, hTail, hLength]
      have hToken := isToken_of_reach hReach
      rwa [classify_number (Or.inl rfl)] at hToken
  | false =>
      cases whole with
      | nil => exact absurd rfl hWhole.nonempty
      | cons d digits =>
          have hd : isAsciiDigit d = true := hWhole.digit d (by simp)
          have hDigits := digitReach_append (fun c hc => hWhole.digit c (List.mem_cons_of_mem d hc)) hHead
          have hReach : tagReach? false d (digits ++ (fraction ++ exponent) ++ s) =
              some (digits ++ (fraction ++ exponent)).length := by
            simp only [List.append_assoc] at *
            simp [tagReach?_digit false hd, hDigits, hTail]
          have hToken := isToken_of_reach hReach
          rwa [classify_number (Or.inr hd)] at hToken

theorem Continues.number_append {text s : List Char} {marks : List Token} (hText : IsNumberText text)
    (hStops : Stops s) (h : Continues s marks) :
    Shows (tokensFrom false (text ++ s)) (⟨text, some .number⟩ :: marks) :=
  h.token_append (isToken_number hText hStops)

/-! ### Words -/

theorem startsWord_of_stops {s : List Char} (hStops : Stops s) : startsWord s = false := by
  cases s with
  | nil => rfl
  | cons c s => exact isWord_layout (hStops.head c rfl)

/-- A word that stands alone is one token. -/
theorem isToken_word {s : List Char} (hStops : Stops s) {c : Char} {tail : List Char}
    (hWord : wordTail? c = some tail) : IsToken (c :: tail) (classify (c :: tail)) s := by
  have hAlone := startsWord_of_stops hStops
  have hLetter : c = 't' ∨ c = 'f' ∨ c = 'n' := by
    unfold wordTail? at hWord
    split_ifs at hWord <;> simp_all
  have hReach : tagReach? false c (tail ++ s) = some tail.length := by
    have hDigit : Text.isDigit c = false := by rcases hLetter with rfl | rfl | rfl <;> rfl
    have hMark : c ≠ '"' := by rcases hLetter with rfl | rfl | rfl <;> decide
    have hMinus : c ≠ '-' := by rcases hLetter with rfl | rfl | rfl <;> decide
    simp [tagReach?, hDigit, hMark, hMinus, hWord, hAlone]
  exact isToken_of_reach hReach

theorem Continues.word_append {s : List Char} {marks : List Token} (hStops : Stops s)
    (h : Continues s marks) {c : Char} {tail : List Char} (hWord : wordTail? c = some tail) :
    Shows (tokensFrom false (c :: tail ++ s)) (⟨c :: tail, some (classify (c :: tail))⟩ :: marks) :=
  h.token_append (isToken_word hStops hWord)

end QueryPlayground.Highlight
