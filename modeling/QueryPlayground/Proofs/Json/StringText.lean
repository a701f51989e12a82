import Mathlib.Tactic.SplitIfs
import QueryPlayground.Json.Reader
import QueryPlayground.Json.Writer

/-! Written strings. Each character of a string is written on its own, as itself or as an escape, and
the reader takes exactly that piece off the text and puts the character back. This holds for both
alphabets of the writer, whose escapes beyond sixteen bits are pairs of surrogates. -/
namespace QueryPlayground.Json

variable {standIn : Nat → Char}

theorem hexValue?_hexDigit : ∀ n < 16, Text.hexValue? (Text.hexDigit n) = some n := by
  decide

/-- Four hexadecimal digits hold a unit of sixteen bits. -/
theorem unit?_hexDigits {n : Nat} (hn : n < 0x10000) :
    ∃ a b c d, Text.hexDigits 4 n = [a, b, c, d] ∧ unit? a b c d = some n := by
  refine ⟨_, _, _, _, rfl, ?_⟩
  simp only [unit?, hexValue?_hexDigit _ (Nat.mod_lt _ (by decide : 0 < 16)), Option.bind_eq_bind,
    Option.bind_some, Option.some.injEq]
  omega

theorem isHighSurrogate_toNat (c : Char) : isHighSurrogate c.toNat = false := by
  have hValid : c.toNat < 0xd800 ∨ 0xdfff < c.toNat ∧ c.toNat < 0x110000 := c.valid
  simp only [isHighSurrogate, Bool.and_eq_false_iff, decide_eq_false_iff_not]
  omega

/-- No character is half of a pair, so a unit that comes from a character gives it back. -/
theorem unitChar_toNat (c : Char) : unitChar standIn c.toNat = c := by
  have hValid : c.toNat < 0xd800 ∨ 0xdfff < c.toNat ∧ c.toNat < 0x110000 := c.valid
  have hLow : isLowSurrogate c.toNat = false := by
    simp only [isLowSurrogate, Bool.and_eq_false_iff, decide_eq_false_iff_not]
    omega
  simp [unitChar, isHighSurrogate_toNat, hLow]

/-- The escape of a unit stands for its character, unless the unit waits for a partner. The reader
looks at what follows, and puts it back whenever it is no partner. -/
theorem readString_unitEscape (start : Nat) (done : List Char) {n : Nat} (hn : n < 0x10000)
    (hHigh : isHighSurrogate n = false) (x : Char) (s : List Char) :
    readString standIn start done (unitEscape n ++ x :: s) =
      readString standIn start (unitChar standIn n :: done) (x :: s) := by
  obtain ⟨a, b, c, d, hDigits, hUnit⟩ := unit?_hexDigits hn
  rw [unitEscape, hDigits]
  simp only [List.cons_append, List.nil_append]
  by_cases hNext : ∃ e f g h y t, x = '\\' ∧ s = 'u' :: e :: f :: g :: h :: y :: t
  · obtain ⟨e, f, g, h, y, t, rfl, rfl⟩ := hNext
    rw [readString.eq_3, hUnit]
    simp [hHigh]
  · rw [readString.eq_4 _ _ _ _ _ _ _ _ _ fun e f g h y t hx hs => hNext ⟨e, f, g, h, y, t, hx, hs⟩, hUnit]

/-- Two escapes that make a pair stand for one character. -/
theorem readString_surrogates (start : Nat) (done : List Char) {high low : Nat}
    (hHigh : isHighSurrogate high = true) (hLow : isLowSurrogate low = true) (x : Char) (s : List Char) :
    readString standIn start done (unitEscape high ++ (unitEscape low ++ x :: s)) =
      readString standIn start (pairChar high low :: done) (x :: s) := by
  have hHighUnit : high < 0x10000 := by
    simp only [isHighSurrogate, Bool.and_eq_true, decide_eq_true_eq] at hHigh
    omega
  have hLowUnit : low < 0x10000 := by
    simp only [isLowSurrogate, Bool.and_eq_true, decide_eq_true_eq] at hLow
    omega
  obtain ⟨a, b, c, d, hDigits, hUnit⟩ := unit?_hexDigits hHighUnit
  obtain ⟨e, f, g, h, hDigits', hUnit'⟩ := unit?_hexDigits hLowUnit
  rw [unitEscape, unitEscape, hDigits, hDigits']
  simp only [List.cons_append, List.nil_append]
  rw [readString.eq_3, hUnit]
  simp [hHigh, hUnit', hLow]

/-- A character beyond sixteen bits is the sum of its two surrogates. -/
theorem readString_codeEscape (start : Nat) (done : List Char) (c x : Char) (s : List Char) :
    readString standIn start done (codeEscape c.toNat ++ x :: s) = readString standIn start (c :: done) (x :: s) := by
  have hValid : c.toNat < 0xd800 ∨ 0xdfff < c.toNat ∧ c.toNat < 0x110000 := c.valid
  by_cases hSmall : c.toNat < 0x10000
  · rw [codeEscape, if_pos hSmall,
      readString_unitEscape start done hSmall (isHighSurrogate_toNat c), unitChar_toNat]
  · have hHigh : isHighSurrogate (0xd800 + (c.toNat - 0x10000) / 0x400) = true := by
      simp only [isHighSurrogate, Bool.and_eq_true, decide_eq_true_eq]
      omega
    have hLow : isLowSurrogate (0xdc00 + (c.toNat - 0x10000) % 0x400) = true := by
      simp only [isLowSurrogate, Bool.and_eq_true, decide_eq_true_eq]
      omega
    have hSum : pairChar (0xd800 + (c.toNat - 0x10000) / 0x400) (0xdc00 + (c.toNat - 0x10000) % 0x400) = c := by
      rw [pairChar, show 0x10000 + (0xd800 + (c.toNat - 0x10000) / 0x400 - 0xd800) * 0x400 +
        (0xdc00 + (c.toNat - 0x10000) % 0x400 - 0xdc00) = c.toNat by omega, Char.ofNat_toNat]
    rw [codeEscape, if_neg hSmall, List.append_assoc, readString_surrogates start done hHigh hLow, hSum]

theorem readString_simpleEscape (start : Nat) (done : List Char) {e c : Char}
    (h : simpleEscape? e = some c) (s : List Char) :
    readString standIn start done ('\\' :: e :: s) = readString standIn start (c :: done) s := by
  have hCode : e ≠ 'u' := by
    rintro rfl
    simp [simpleEscape?] at h
  rw [readString.eq_7 _ _ _ _ _ (fun _ _ _ _ _ _ _ _ _ _ he => absurd he hCode)
    (fun _ _ _ _ _ _ he => absurd he hCode) hCode, h]

theorem readString_plain (start : Nat) (done : List Char) {c : Char} (hMark : c ≠ '"')
    (hSlash : c ≠ '\\') (hControl : ¬c.toNat < 0x20) (s : List Char) :
    readString standIn start done (c :: s) = readString standIn start (c :: done) s := by
  rw [readString.eq_8 _ _ _ _ _ hMark (fun _ _ _ _ _ _ _ _ _ _ h => absurd h hSlash)
    (fun _ _ _ _ _ _ h => absurd h hSlash) (fun _ h => absurd h hSlash) (fun h => absurd h hSlash)
    (fun _ _ h => absurd h hSlash), if_neg hControl]

/-- One written character is read back; some character has to follow it, as the closing mark does. -/
theorem readString_escapeChar (asciiOnly : Bool) (start : Nat) (done : List Char) (c x : Char)
    (s : List Char) :
    readString standIn start done (escapeChar asciiOnly c ++ x :: s) = readString standIn start (c :: done) (x :: s) := by
  unfold escapeChar
  split_ifs with hMark hSlash hFeed hReturn hTab hForm hBack hCode
  · exact readString_simpleEscape start done (by rw [hMark]; rfl) _
  · exact readString_simpleEscape start done (by rw [hSlash]; rfl) _
  · exact readString_simpleEscape start done (by rw [hFeed]; rfl) _
  · exact readString_simpleEscape start done (by rw [hReturn]; rfl) _
  · exact readString_simpleEscape start done (by rw [hTab]; rfl) _
  · exact readString_simpleEscape start done (by rw [hForm]; rfl) _
  · exact readString_simpleEscape start done (by rw [hBack]; rfl) _
  · exact readString_codeEscape start done c x s
  · exact readString_plain start done hMark hSlash (fun h => hCode (Or.inl h)) _

theorem readString_escapeChars (asciiOnly : Bool) (start : Nat) (done chars rest : List Char) :
    readString standIn start done (chars.flatMap (escapeChar asciiOnly) ++ '"' :: rest) =
      .ok (String.ofList (done.reverse ++ chars), rest) := by
  induction chars generalizing done with
  | nil => simp [readString.eq_2]
  | cons c chars ih =>
      have hNext : ∃ x s, chars.flatMap (escapeChar asciiOnly) ++ '"' :: rest = x :: s :=
        List.exists_cons_of_ne_nil (by simp)
      obtain ⟨x, s, hNext⟩ := hNext
      rw [List.flatMap_cons, List.append_assoc, hNext, readString_escapeChar, ← hNext, ih]
      simp

/-- A string is read back from its text, and nothing after it is touched. -/
theorem readString_writeString (asciiOnly : Bool) (start : Nat) (s : String) (rest : List Char) :
    readString standIn start [] (s.toList.flatMap (escapeChar asciiOnly) ++ '"' :: rest) = .ok (s, rest) := by
  simp [readString_escapeChars]

end QueryPlayground.Json
