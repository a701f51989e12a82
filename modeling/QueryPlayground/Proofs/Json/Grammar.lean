import QueryPlayground.Proofs.Json.NumberText
import QueryPlayground.Proofs.Json.RoundTrip

/-! A grammar of JSON texts. It is given in terms of what a part of a text leaves of the characters that are
to come. Beyond the standard it has the names of the doubles that are no numbers. A limit on the digits of
integers is a parameter, since the reader has one. -/
namespace QueryPlayground.Json

open Binary64 (isAsciiDigit signText)

/-- A string behind its opening mark, up to its closing one. -/
inductive TakesString : List Char → List Char → Prop where
  | close (rest : List Char) : TakesString ('"' :: rest) rest
  | plain {c : Char} {s rest : List Char} (hMark : c ≠ '"') (hSlash : c ≠ '\\') (hControl : ¬c.toNat < 0x20)
      (h : TakesString s rest) : TakesString (c :: s) rest
  | escape {e c : Char} {s rest : List Char} (hEscape : simpleEscape? e = some c) (h : TakesString s rest) :
      TakesString ('\\' :: e :: s) rest
  | code {a b c d : Char} {n : Nat} {s rest : List Char} (hUnit : unit? a b c d = some n)
      (h : TakesString s rest) : TakesString ('\\' :: 'u' :: a :: b :: c :: d :: s) rest

/-- An exponent: the letter in either case, perhaps a sign, and digits. -/
inductive IsPower : List Char → Prop where
  | none : IsPower []
  | power {letter : Char} {sign digits : List Char} (hLetter : letter = 'e' ∨ letter = 'E')
      (hSign : sign = [] ∨ sign = ['+'] ∨ sign = ['-']) (hDigits : IsDigits digits) :
      IsPower (letter :: (sign ++ digits))

/-- The text of a number. An integer has at most `limit` digits, and no number has a zero in front of other
digits. -/
inductive IsNumeral (limit : Nat) : List Char → Prop where
  | parts (negative : Bool) {whole fraction power : List Char} (hWhole : IsDigits whole)
      (hLead : whole.head? = some '0' → whole = ['0']) (hFraction : IsFraction fraction)
      (hPower : IsPower power) (hLimit : fraction = [] → power = [] → whole.length ≤ limit) :
      IsNumeral limit (signText negative ++ (whole ++ (fraction ++ power)))

/-- Blanks, or nothing. -/
def TakesGaps (s rest : List Char) : Prop := ∃ gap : List Char, s = gap ++ rest ∧ ∀ c ∈ gap, isGap c = true

/-- The name of a member and the colon behind it. -/
inductive TakesName : List Char → List Char → Prop where
  | parts {s₁ s₂ s₃ s₄ s₅ : List Char} (hLead : TakesGaps s₁ ('"' :: s₂)) (hName : TakesString s₂ s₃)
      (hColon : TakesGaps s₃ (':' :: s₄)) (hGap : TakesGaps s₄ s₅) : TakesName s₁ s₅

/-- The parts of a text that hold values: a value, and what stands behind the opening bracket of an array or
an object that is not empty. -/
inductive Phrase where
  | value
  | items
  | members

/-- The names of values, those of the doubles that are no numbers among them. -/
def literals : List (List Char) :=
  [['n', 'u', 'l', 'l'], ['t', 'r', 'u', 'e'], ['f', 'a', 'l', 's', 'e'], ['N', 'a', 'N'],
    ['I', 'n', 'f', 'i', 'n', 'i', 't', 'y'], ['-', 'I', 'n', 'f', 'i', 'n', 'i', 't', 'y']]

/-- A part of a text in front of what is left. -/
inductive Takes (limit : Nat) : Phrase → List Char → List Char → Prop where
  | literal {text : List Char} (hText : text ∈ literals) (rest : List Char) : Takes limit .value (text ++ rest) rest
  | number {text : List Char} (hText : IsNumeral limit text) (rest : List Char) : Takes limit .value (text ++ rest) rest
  | string {s rest : List Char} (h : TakesString s rest) : Takes limit .value ('"' :: s) rest
  | emptyArray {s rest : List Char} (hGap : TakesGaps s (']' :: rest)) : Takes limit .value ('[' :: s) rest
  | array {s rest : List Char} (h : Takes limit .items s rest) : Takes limit .value ('[' :: s) rest
  | emptyObject {s rest : List Char} (hGap : TakesGaps s ('\x7d' :: rest)) : Takes limit .value ('\x7b' :: s) rest
  | object {s rest : List Char} (h : Takes limit .members s rest) : Takes limit .value ('\x7b' :: s) rest
  | lastItem {s₁ s₂ s₃ rest : List Char} (hLead : TakesGaps s₁ s₂) (hValue : Takes limit .value s₂ s₃)
      (hClose : TakesGaps s₃ (']' :: rest)) : Takes limit .items s₁ rest
  | nextItem {s₁ s₂ s₃ s₄ rest : List Char} (hLead : TakesGaps s₁ s₂) (hValue : Takes limit .value s₂ s₃)
      (hComma : TakesGaps s₃ (',' :: s₄)) (h : Takes limit .items s₄ rest) : Takes limit .items s₁ rest
  | lastMember {s₁ s₂ s₃ rest : List Char} (hName : TakesName s₁ s₂) (hValue : Takes limit .value s₂ s₃)
      (hClose : TakesGaps s₃ ('\x7d' :: rest)) : Takes limit .members s₁ rest
  | nextMember {s₁ s₂ s₃ s₄ rest : List Char} (hName : TakesName s₁ s₂) (hValue : Takes limit .value s₂ s₃)
      (hComma : TakesGaps s₃ (',' :: s₄)) (h : Takes limit .members s₄ rest) : Takes limit .members s₁ rest

/-- A text that holds one value between blanks, with integers of at most `limit` digits. -/
def IsText (limit : Nat) (s : String) : Prop :=
  ∃ start rest, TakesGaps s.toList start ∧ Takes limit .value start rest ∧ TakesGaps rest []

variable {limit : Nat} {s rest : List Char}

theorem TakesString.length_lt (h : TakesString s rest) : rest.length < s.length := by
  induction h with
  | close rest => simp
  | plain _ _ _ _ ih => exact Nat.lt_succ_of_lt ih
  | escape _ _ ih => simp only [List.length_cons]; omega
  | code _ _ ih => simp only [List.length_cons]; omega

theorem of_mem_takeWhile {p : Char → Bool} {c : Char} (h : c ∈ s.takeWhile p) : p c = true :=
  List.all_eq_true.mp List.all_takeWhile c h

theorem takesGaps_refl (s : List Char) : TakesGaps s s := ⟨[], rfl, List.forall_mem_nil _⟩

theorem takesGaps_skipGaps (s : List Char) : TakesGaps s (skipGaps s) :=
  ⟨s.takeWhile isGap, List.takeWhile_append_dropWhile.symm, fun _ => of_mem_takeWhile⟩

theorem TakesGaps.trans {s₁ s₂ s₃ : List Char} (h : TakesGaps s₁ s₂) (h' : TakesGaps s₂ s₃) :
    TakesGaps s₁ s₃ := by
  obtain ⟨gap, rfl, hGap⟩ := h
  obtain ⟨gap', rfl, hGap'⟩ := h'
  refine ⟨gap ++ gap', by rw [List.append_assoc], fun c hc => ?_⟩
  exact (List.mem_append.mp hc).elim (hGap c) (hGap' c)

theorem TakesGaps.length_le (h : TakesGaps s rest) : rest.length ≤ s.length := by
  obtain ⟨gap, rfl, _⟩ := h
  simp

theorem TakesGaps.length_lt {c : Char} (h : TakesGaps s (c :: rest)) : rest.length < s.length := h.length_le

/-- Blanks are passed over as a whole. -/
theorem TakesGaps.skipGaps_eq {c : Char} (h : TakesGaps s (c :: rest)) (hStop : isGap c = false) :
    skipGaps s = c :: rest := by
  obtain ⟨gap, rfl, hGap⟩ := h
  exact skipGaps_append hGap hStop rest

theorem TakesGaps.breaks {c : Char} (h : TakesGaps s (c :: rest)) (hBreak : isBreak c = true) : Breaks s := by
  obtain ⟨gap, rfl, hGap⟩ := h
  exact breaks_append hGap (breaks_cons rest hBreak)

theorem literals_head : ∀ text ∈ literals, ∃ c t, text = c :: t ∧ isBreak c = false := by
  simp only [literals, List.forall_mem_cons]
  exact ⟨⟨_, _, rfl, rfl⟩, ⟨_, _, rfl, rfl⟩, ⟨_, _, rfl, rfl⟩, ⟨_, _, rfl, rfl⟩, ⟨_, _, rfl, rfl⟩,
    ⟨_, _, rfl, rfl⟩, List.forall_mem_nil _⟩

theorem IsNumeral.head {text : List Char} (h : IsNumeral limit text) :
    ∃ c t, text = c :: t ∧ isBreak c = false := by
  cases h with
  | @parts negative whole _ _ hWhole =>
      obtain ⟨d, after, rfl⟩ := List.exists_cons_of_ne_nil hWhole.nonempty
      cases negative with
      | true => exact ⟨'-', _, rfl, rfl⟩
      | false =>
          have hd := hWhole.digit d List.mem_cons_self
          exact ⟨d, _, rfl, isBreak_eq_false_of_digit (.inr hd)⟩

/-- A value starts with a character of its own. -/
theorem Takes.head (h : Takes limit .value s rest) : ∃ c t, s = c :: t ∧ isBreak c = false := by
  cases h with
  | literal hText rest =>
      obtain ⟨c, t, rfl, hc⟩ := literals_head _ hText
      exact ⟨c, t ++ rest, rfl, hc⟩
  | number hText rest =>
      obtain ⟨c, t, rfl, hc⟩ := hText.head
      exact ⟨c, t ++ rest, rfl, hc⟩
  | _ => exact ⟨_, _, rfl, rfl⟩

theorem TakesName.length_lt (h : TakesName s rest) : rest.length < s.length := by
  cases h with
  | parts hLead hName hColon hGap =>
      have hLead := hLead.length_lt
      have hName := hName.length_lt
      have hColon := hColon.length_lt
      have hGap := hGap.length_le
      omega

/-- No part of a text is empty. -/
theorem Takes.length_lt {phrase : Phrase} (h : Takes limit phrase s rest) : rest.length < s.length := by
  induction h with
  | literal hText rest =>
      obtain ⟨c, t, rfl, _⟩ := literals_head _ hText
      simp only [List.cons_append, List.length_cons, List.length_append]
      omega
  | number hText rest =>
      obtain ⟨c, t, rfl, _⟩ := hText.head
      simp only [List.cons_append, List.length_cons, List.length_append]
      omega
  | string h => exact Nat.lt_succ_of_lt h.length_lt
  | emptyArray hGap => exact Nat.lt_succ_of_lt hGap.length_lt
  | emptyObject hGap => exact Nat.lt_succ_of_lt hGap.length_lt
  | array _ ih => exact Nat.lt_succ_of_lt ih
  | object _ ih => exact Nat.lt_succ_of_lt ih
  | lastItem hLead _ hClose ih =>
      have hLead := hLead.length_le
      have hClose := hClose.length_lt
      omega
  | nextItem hLead _ hComma _ ihValue ih =>
      have hLead := hLead.length_le
      have hComma := hComma.length_lt
      omega
  | lastMember hName _ hClose ih =>
      have hName := hName.length_lt
      have hClose := hClose.length_lt
      omega
  | nextMember hName _ hComma _ ihValue ih =>
      have hName := hName.length_lt
      have hComma := hComma.length_lt
      omega

end QueryPlayground.Json
