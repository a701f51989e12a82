import QueryPlayground.Proofs.Json.Lexemes

/-! What the reader takes. It comes to a value on the texts of the grammar, and on no others: fuel for each
character is enough, and whatever fuel it has, it follows the grammar. -/
namespace QueryPlayground.Json

open Binary64 (isAsciiDigit signText)

variable {standIn : Nat → Char} {limit : Nat} {s rest : List Char}

/-! ### What the grammar has is read -/

/-- The reader comes to the end of a part of a text, with some fuel. -/
def Reads (standIn : Nat → Char) (fuel : Nat) : Phrase → List Char → List Char → Prop
  | .value, s, rest => Breaks rest → ∃ v, readValue standIn fuel s = .ok (v, rest)
  | .items, s, rest => ∀ done, ∃ items, readItems standIn fuel done (skipGaps s) = .ok (items, rest)
  | .members, s, rest => ∀ done, ∃ members, readMembers standIn fuel done (skipGaps s) = .ok (members, rest)

theorem literals_reads (fuel : Nat) (rest : List Char) :
    ∀ text ∈ literals, ∃ v, readValue standIn (fuel + 1) (text ++ rest) = .ok (v, rest) := by
  simp only [literals, List.forall_mem_cons]
  exact ⟨⟨_, rfl⟩, ⟨_, rfl⟩, ⟨_, rfl⟩, ⟨_, rfl⟩, ⟨_, rfl⟩, ⟨_, rfl⟩, List.forall_mem_nil _⟩

theorem IsNumeral.readsValue {text : List Char} (h : IsNumeral Text.maxIntegerDigits text) (fuel : Nat) (hRest : Breaks rest) :
    ∃ v, readValue standIn (fuel + 1) (text ++ rest) = .ok (v, rest) := by
  obtain ⟨v, hv⟩ := h.reads hRest
  refine ⟨v, ?_⟩
  rw [← hv]
  cases h with
  | @parts negative whole _ _ hWhole =>
      obtain ⟨d, after, rfl⟩ := List.exists_cons_of_ne_nil hWhole.nonempty
      rw [List.cons_append, List.append_assoc, List.cons_append]
      exact readValue_numeral fuel negative (hWhole.digit d List.mem_cons_self) _

/-- The name in front of a value is read, and its colon. -/
theorem TakesName.reads (standIn : Nat → Char) {s₁ s₂ : List Char} (h : TakesName s₁ s₂) :
    ∃ s, skipGaps s₁ = '"' :: s ∧
      ∃ name after, readString standIn (s.length + 1) [] s = .ok (name, after) ∧
        ∃ t, skipGaps after = ':' :: t ∧ skipGaps t = skipGaps s₂ := by
  cases h with
  | @parts s₂ s₃ s₄ _ hLead hName hColon hGap =>
      obtain ⟨name, hRead⟩ := (readString_iff (s₂.length + 1) [] s₂ s₃).mpr hName
      refine ⟨s₂, hLead.skipGaps_eq rfl, name, s₃, hRead, s₄, hColon.skipGaps_eq rfl, ?_⟩
      obtain ⟨gap, rfl, hAll⟩ := hGap
      rw [skipGaps, skipGaps, List.dropWhile_append_of_pos hAll]

theorem Takes.skipGaps_eq (h : Takes limit .value s rest) {before : List Char} (hLead : TakesGaps before s) :
    skipGaps before = s := by
  obtain ⟨c, t, rfl, hc⟩ := h.head
  exact hLead.skipGaps_eq (isGap_eq_false_of_isBreak hc)

theorem Takes.items_start (h : Takes limit .items s rest) : ∃ c t, skipGaps s = c :: t ∧ isBreak c = false := by
  cases h with
  | lastItem hLead hValue =>
      rw [hValue.skipGaps_eq hLead]
      exact hValue.head
  | nextItem hLead hValue =>
      rw [hValue.skipGaps_eq hLead]
      exact hValue.head

theorem Takes.members_start (h : Takes limit .members s rest) : ∃ t, skipGaps s = '"' :: t := by
  cases h with
  | lastMember hName =>
      obtain ⟨t, hStart, _⟩ := hName.reads fun _ => replacement
      exact ⟨t, hStart⟩
  | nextMember hName =>
      obtain ⟨t, hStart, _⟩ := hName.reads fun _ => replacement
      exact ⟨t, hStart⟩

theorem Takes.exists_fuel {phrase : Phrase} (h : Takes Text.maxIntegerDigits phrase s rest) {fuel : Nat}
    (hFuel : s.length ≤ rest.length + fuel) : ∃ n, fuel = n + 1 := by
  have hLength := h.length_lt
  exact Nat.exists_eq_add_one_of_ne_zero (by omega)

/-- What the grammar has is read. The induction is on the derivation; each character of a part of a text
pays for one call. -/
theorem Takes.reads {phrase : Phrase} (h : Takes Text.maxIntegerDigits phrase s rest) {fuel : Nat}
    (hFuel : s.length ≤ rest.length + fuel) : Reads standIn fuel phrase s rest := by
  induction h generalizing fuel with
  | literal hText rest =>
      obtain ⟨fuel, rfl⟩ := (Takes.literal hText rest).exists_fuel hFuel
      exact fun _ => literals_reads fuel rest _ hText
  | number hText rest =>
      obtain ⟨fuel, rfl⟩ := (Takes.number hText rest).exists_fuel hFuel
      exact hText.readsValue fuel
  | string h =>
      obtain ⟨fuel, rfl⟩ := (Takes.string h).exists_fuel hFuel
      intro _
      obtain ⟨text, hRead⟩ := (readString_iff _ [] _ _).mpr h
      rw [readValue.eq_2, hRead]
      exact ⟨_, rfl⟩
  | emptyArray hGap =>
      obtain ⟨fuel, rfl⟩ := (Takes.emptyArray hGap).exists_fuel hFuel
      intro _
      rw [readValue.eq_4, hGap.skipGaps_eq rfl]
      exact ⟨_, rfl⟩
  | @array s rest h ih =>
      obtain ⟨fuel, rfl⟩ := (Takes.array h).exists_fuel hFuel
      intro _
      rw [List.length_cons] at hFuel
      have hItems : ∃ items, readItems standIn fuel [] (skipGaps s) = .ok (items, rest) := ih (by omega) []
      obtain ⟨items, hItems⟩ := hItems
      obtain ⟨c, t, hText, hc⟩ := h.items_start
      have hBracket : c ≠ ']' := by
        rintro rfl
        exact absurd hc (by decide)
      rw [hText] at hItems
      rw [readValue.eq_4, hText]
      simp [hItems, hBracket, Except.map]
  | emptyObject hGap =>
      obtain ⟨fuel, rfl⟩ := (Takes.emptyObject hGap).exists_fuel hFuel
      intro _
      rw [readValue.eq_3, hGap.skipGaps_eq rfl]
      exact ⟨_, rfl⟩
  | @object s rest h ih =>
      obtain ⟨fuel, rfl⟩ := (Takes.object h).exists_fuel hFuel
      intro _
      rw [List.length_cons] at hFuel
      have hMembers : ∃ members, readMembers standIn fuel [] (skipGaps s) = .ok (members, rest) := ih (by omega) []
      obtain ⟨members, hMembers⟩ := hMembers
      obtain ⟨t, hText⟩ := h.members_start
      rw [hText] at hMembers
      rw [readValue.eq_3, hText]
      simp [hMembers, Except.map]
  | @lastItem s₁ s₂ s₃ rest hLead hValue hClose ih =>
      obtain ⟨fuel, rfl⟩ := (Takes.lastItem hLead hValue hClose).exists_fuel hFuel
      intro done
      have hLeadLength := hLead.length_le
      have hCloseLength := hClose.length_lt
      have hRead : ∃ v, readValue standIn fuel s₂ = .ok (v, s₃) := ih (by omega) (hClose.breaks rfl)
      obtain ⟨v, hv⟩ := hRead
      rw [hValue.skipGaps_eq hLead, readItems.eq_2, hv]
      simp only [hClose.skipGaps_eq rfl]
      exact ⟨_, rfl⟩
  | @nextItem s₁ s₂ s₃ s₄ rest hLead hValue hComma h ihValue ih =>
      obtain ⟨fuel, rfl⟩ := (Takes.nextItem hLead hValue hComma h).exists_fuel hFuel
      intro done
      have hLeadLength := hLead.length_le
      have hValueLength := hValue.length_lt
      have hCommaLength := hComma.length_lt
      have hLength := h.length_lt
      have hRead : ∃ v, readValue standIn fuel s₂ = .ok (v, s₃) := ihValue (by omega) (hComma.breaks rfl)
      obtain ⟨v, hv⟩ := hRead
      rw [hValue.skipGaps_eq hLead, readItems.eq_2, hv]
      simp only [hComma.skipGaps_eq rfl]
      exact ih (by omega) _
  | @lastMember s₁ s₂ s₃ rest hName hValue hClose ih =>
      obtain ⟨fuel, rfl⟩ := (Takes.lastMember hName hValue hClose).exists_fuel hFuel
      intro done
      have hNameLength := hName.length_lt
      have hCloseLength := hClose.length_lt
      have hRead : ∃ v, readValue standIn fuel s₂ = .ok (v, s₃) := ih (by omega) (hClose.breaks rfl)
      obtain ⟨v, hv⟩ := hRead
      obtain ⟨s, hStart, name, after, hRead, t, hColon, hGap⟩ := hName.reads standIn
      rw [hStart, readMembers.eq_2, hRead]
      simp only [hColon, hGap, hValue.skipGaps_eq (takesGaps_refl _), hv, hClose.skipGaps_eq rfl]
      exact ⟨_, rfl⟩
  | @nextMember s₁ s₂ s₃ s₄ rest hName hValue hComma h ihValue ih =>
      obtain ⟨fuel, rfl⟩ := (Takes.nextMember hName hValue hComma h).exists_fuel hFuel
      intro done
      have hNameLength := hName.length_lt
      have hValueLength := hValue.length_lt
      have hCommaLength := hComma.length_lt
      have hLength := h.length_lt
      have hRead : ∃ v, readValue standIn fuel s₂ = .ok (v, s₃) := ihValue (by omega) (hComma.breaks rfl)
      obtain ⟨v, hv⟩ := hRead
      obtain ⟨s, hStart, name, after, hRead, t, hColon, hGap⟩ := hName.reads standIn
      rw [hStart, readMembers.eq_2, hRead]
      simp only [hColon, hGap, hValue.skipGaps_eq (takesGaps_refl _), hv, hComma.skipGaps_eq rfl]
      exact ih (by omega) _

/-! ### What is read is in the grammar -/

theorem Takes.items_after (hLead : TakesGaps s rest) {after : List Char} (h : Takes limit .items rest after) :
    Takes limit .items s after := by
  cases h with
  | lastItem hLead' hValue hClose => exact .lastItem (hLead.trans hLead') hValue hClose
  | nextItem hLead' hValue hComma h => exact .nextItem (hLead.trans hLead') hValue hComma h

theorem TakesName.after (hLead : TakesGaps s rest) {after : List Char} (h : TakesName rest after) :
    TakesName s after := by
  cases h with
  | parts hLead' hName hColon hGap => exact .parts (hLead.trans hLead') hName hColon hGap

theorem Takes.members_after (hLead : TakesGaps s rest) {after : List Char} (h : Takes limit .members rest after) :
    Takes limit .members s after := by
  cases h with
  | lastMember hName hValue hClose => exact .lastMember (hName.after hLead) hValue hClose
  | nextMember hName hValue hComma h => exact .nextMember (hName.after hLead) hValue hComma h

theorem takesGaps_of_skipGaps_eq (h : skipGaps s = rest) : TakesGaps s rest := h ▸ takesGaps_skipGaps s

theorem exists_of_map_eq_ok {ε α β : Type} {act : Except ε α} {f : α → β} {b : β} (h : act.map f = .ok b) :
    ∃ a, act = .ok a ∧ f a = b := by
  cases act with
  | error fault => cases h
  | ok a => exact ⟨a, rfl, Except.ok.inj h⟩

theorem takes_of_readValue {fuel : Nat} {v : Json}
    (hItems : ∀ s done items rest, readItems standIn fuel done s = .ok (items, rest) → Takes Text.maxIntegerDigits .items s rest)
    (hMembers : ∀ s done members rest, readMembers standIn fuel done s = .ok (members, rest) → Takes Text.maxIntegerDigits .members s rest)
    (h : readValue standIn (fuel + 1) s = .ok (v, rest)) : Takes Text.maxIntegerDigits .value s rest := by
  have hLiteral (text : List Char) (hText : text ∈ literals) {w : Json} {t : List Char}
      (h : (Except.ok (w, t) : Except Stop (Json × List Char)) = .ok (v, rest)) :
      Takes Text.maxIntegerDigits .value (text ++ t) rest := by
    cases h
    exact .literal hText rest
  unfold readValue at h
  split at h
  next => cases h
  next t _ =>
      obtain ⟨⟨text, after⟩, hRead, hPair⟩ := exists_of_map_eq_ok h
      cases hPair
      exact .string ((readString_iff _ [] _ _).mp ⟨text, hRead⟩)
  next t hFuel =>
      cases hFuel
      split at h
      next after hClose =>
          cases h
          exact .emptyObject (takesGaps_of_skipGaps_eq hClose)
      next =>
          obtain ⟨⟨members, after⟩, hRead, hPair⟩ := exists_of_map_eq_ok h
          cases hPair
          exact .object ((hMembers _ _ _ _ hRead).members_after (takesGaps_skipGaps t))
  next t hFuel =>
      cases hFuel
      split at h
      next after hClose =>
          cases h
          exact .emptyArray (takesGaps_of_skipGaps_eq hClose)
      next =>
          obtain ⟨⟨items, after⟩, hRead, hPair⟩ := exists_of_map_eq_ok h
          cases hPair
          exact .array ((hItems _ _ _ _ hRead).items_after (takesGaps_skipGaps t))
  next => exact hLiteral ['n', 'u', 'l', 'l'] (by decide) h
  next => exact hLiteral ['t', 'r', 'u', 'e'] (by decide) h
  next => exact hLiteral ['f', 'a', 'l', 's', 'e'] (by decide) h
  next => exact hLiteral ['N', 'a', 'N'] (by decide) h
  next => exact hLiteral ['I', 'n', 'f', 'i', 'n', 'i', 't', 'y'] (by decide) h
  next => exact hLiteral ['-', 'I', 'n', 'f', 'i', 'n', 'i', 't', 'y'] (by decide) h
  next =>
      obtain ⟨text, hText, rfl⟩ := isNumeral_of_readNumber h
      exact .number hText rest

theorem takes_of_readItems {fuel : Nat} {done items : List Json}
    (hValue : ∀ s v rest, readValue standIn fuel s = .ok (v, rest) → Takes Text.maxIntegerDigits .value s rest)
    (hItems : ∀ s done items rest, readItems standIn fuel done s = .ok (items, rest) → Takes Text.maxIntegerDigits .items s rest)
    (h : readItems standIn (fuel + 1) done s = .ok (items, rest)) : Takes Text.maxIntegerDigits .items s rest := by
  unfold readItems at h
  split at h
  next => cases h
  next item after hItem =>
      split at h
      next after' hClose =>
          cases h
          exact .lastItem (takesGaps_refl s) (hValue _ _ _ hItem) (takesGaps_of_skipGaps_eq hClose)
      next after' hComma =>
          exact .nextItem (takesGaps_refl s) (hValue _ _ _ hItem) (takesGaps_of_skipGaps_eq hComma)
            ((hItems _ _ _ _ h).items_after (takesGaps_skipGaps _))
      next => cases h

theorem takes_of_readMembers {fuel : Nat} {done members : List (String × Json)}
    (hValue : ∀ s v rest, readValue standIn fuel s = .ok (v, rest) → Takes Text.maxIntegerDigits .value s rest)
    (hMembers : ∀ s done members rest, readMembers standIn fuel done s = .ok (members, rest) → Takes Text.maxIntegerDigits .members s rest)
    (h : readMembers standIn (fuel + 1) done s = .ok (members, rest)) : Takes Text.maxIntegerDigits .members s rest := by
  unfold readMembers at h
  split at h
  next => cases h
  next s hFuel =>
      cases hFuel
      split at h
      next => cases h
      next name after hRead =>
          have hName := (readString_iff _ _ _ _).mp ⟨name, hRead⟩
          split at h
          next t hColon =>
              have hPart : TakesName ('"' :: s) (skipGaps t) :=
                .parts (takesGaps_refl _) hName (takesGaps_of_skipGaps_eq hColon) (takesGaps_skipGaps t)
              split at h
              next => cases h
              next value after' hItem =>
                  dsimp only at h
                  split at h
                  next after'' hClose =>
                      cases h
                      exact .lastMember hPart (hValue _ _ _ hItem) (takesGaps_of_skipGaps_eq hClose)
                  next after'' hComma =>
                      exact .nextMember hPart (hValue _ _ _ hItem) (takesGaps_of_skipGaps_eq hComma)
                        ((hMembers _ _ _ _ h).members_after (takesGaps_skipGaps _))
                  next => cases h
          next => cases h
  next => cases h

/-- What is read is in the grammar. The induction is on the fuel, of which each call hands on one less. -/
theorem takes_of_read (fuel : Nat) :
    (∀ s v rest, readValue standIn fuel s = .ok (v, rest) → Takes Text.maxIntegerDigits .value s rest) ∧
      (∀ s done items rest, readItems standIn fuel done s = .ok (items, rest) → Takes Text.maxIntegerDigits .items s rest) ∧
        (∀ s done members rest, readMembers standIn fuel done s = .ok (members, rest) → Takes Text.maxIntegerDigits .members s rest) := by
  induction fuel with
  | zero =>
      refine ⟨fun s v rest h => ?_, fun s done items rest h => ?_, fun s done members rest h => ?_⟩
      · rw [readValue] at h
        cases h
      · rw [readItems] at h
        cases h
      · rw [readMembers] at h
        cases h
  | succ fuel ih =>
      obtain ⟨hValue, hItems, hMembers⟩ := ih
      exact ⟨fun _ _ _ => takes_of_readValue hItems hMembers, fun _ _ _ _ => takes_of_readItems hValue hItems,
        fun _ _ _ _ => takes_of_readMembers hValue hMembers⟩

/-- The reader comes to a value on the texts of the grammar, and on no others. -/
theorem readChars_iff (standIn : Nat → Char) (chars : List Char) :
    (∃ v, readChars standIn chars = .ok v) ↔ IsText Text.maxIntegerDigits (String.ofList chars) := by
  rw [IsText, String.toList_ofList]
  unfold readChars
  constructor
  · rintro ⟨v, h⟩
    split at h
    next => cases h
    next =>
        split at h
        next => cases h
        next value rest hValue =>
            split at h
            next hEnd =>
                exact ⟨_, _, takesGaps_skipGaps chars, (takes_of_read _).1 _ _ _ hValue,
                  takesGaps_of_skipGaps_eq hEnd⟩
            next => cases h
  · rintro ⟨start, rest, hStart, hValue, hEnd⟩
    have hLength := hStart.length_le
    have hBreaks : Breaks rest := by
      obtain ⟨gap, rfl, hGap⟩ := hEnd
      exact breaks_append hGap breaks_nil
    have hReads : ∃ v, readValue standIn (2 * chars.length + 2) start = .ok (v, rest) :=
      hValue.reads (by omega) hBreaks
    obtain ⟨v, hv⟩ := hReads
    -- The reader looks for a byte order mark first, with which no text of the grammar starts.
    have hMark : chars.head? ≠ some '\ufeff' := by
      intro hHead
      obtain ⟨after, rfl⟩ := List.head?_eq_some_iff.mp hHead
      have hSame := hValue.skipGaps_eq hStart
      rw [skipGaps_cons rfl] at hSame
      obtain ⟨stop, hStop⟩ := readValue_mark standIn (2 * ('\ufeff' :: after).length + 2) after
      rw [← hSame, hStop] at hv
      cases hv
    have hNone : skipGaps rest = [] := by
      obtain ⟨gap, rfl, hGap⟩ := hEnd
      rw [skipGaps, List.dropWhile_append_of_pos hGap]
      rfl
    rw [if_neg hMark, hValue.skipGaps_eq hStart, hv]
    simp only [hNone]
    exact ⟨v, rfl⟩

theorem read_iff (s : String) : (∃ v, read s = .ok v) ↔ IsText Text.maxIntegerDigits s := by
  have hRead : (∃ v, read s = .ok v) ↔ ∃ v, readChars (fun _ => replacement) s.toList = .ok v := by
    unfold read
    cases readChars (fun _ => replacement) s.toList with
    | error stop => exact ⟨nofun, nofun⟩
    | ok v => exact ⟨fun _ => ⟨v, rfl⟩, fun _ => ⟨v, rfl⟩⟩
  rw [hRead, readChars_iff, String.ofList_toList]

/-- What is written for a storable value is a text. -/
theorem Storable.write_isText {style : Style} (hStyle : style.IsReadable) {v : Json} (hv : v.Storable) :
    IsText Text.maxIntegerDigits (write style v) :=
  (read_iff _).mp ⟨v, hv.read_write hStyle⟩

/-! ### Integers that are too long -/

/-- A row of ones. -/
def ones (n : Nat) : List Char := List.replicate n '1'

theorem isAsciiDigit_of_mem_ones {n : Nat} {c : Char} (h : c ∈ ones n) : isAsciiDigit c = true := by
  rw [List.eq_of_mem_replicate h]
  decide

/-- A row of ones is a text, if integers may have so many digits. -/
theorem isText_ones (n : Nat) : IsText (n + 1) (String.ofList (ones (n + 1))) := by
  have hWhole : IsDigits (ones (n + 1)) := ⟨List.cons_ne_nil _ _, fun _ => isAsciiDigit_of_mem_ones⟩
  have hNumeral : IsNumeral (n + 1) (ones (n + 1)) := by
    simpa [signText] using IsNumeral.parts false hWhole (by simp [ones, List.replicate_succ]) .none .none
      fun _ _ => Nat.le_of_eq List.length_replicate
  refine ⟨ones (n + 1), [], ?_, ?_, takesGaps_refl []⟩
  · rw [String.toList_ofList]
    exact takesGaps_refl _
  · simpa using Takes.number hNumeral []

/-- The reader refuses it as soon as it has too many digits. -/
theorem read_ones {n : Nat} (h : Text.maxIntegerDigits < n + 1) :
    read (String.ofList (ones (n + 1))) = .error (.integerTooLong (n + 1)) := by
  have hOnes : ones (n + 1) = signText false ++ '1' :: ones n := rfl
  have hTail : ∀ c ∈ ones n, isAsciiDigit c = true := fun _ => isAsciiDigit_of_mem_ones
  have hTake : (ones n).takeWhile isAsciiDigit = ones n := by
    simpa using takeWhile_digits_append hTail breaks_nil.noDigit
  have hDrop : (ones n).dropWhile isAsciiDigit = [] := by
    simpa using dropWhile_digits_append hTail breaks_nil.noDigit
  have hLength : ('1' :: ones n).length = n + 1 := by simp [ones]
  have hNumber : readNumber (ones (n + 1)) = .error (.integerTooLong (n + 1)) := by
    rw [hOnes, readNumber_cons false (by decide), if_neg (by decide), hTake, hDrop]
    simp only [finishNumber, readFraction, readExponent, Option.elim_none, hLength, if_pos h]
  have hValue (fuel : Nat) : readValue (fun _ => replacement) (fuel + 1) (ones (n + 1)) =
      .error (.integerTooLong (n + 1)) := by
    rw [← hNumber, hOnes]
    exact readValue_numeral fuel false (by decide) _
  have hStart : skipGaps (ones (n + 1)) = ones (n + 1) := skipGaps_cons (by decide) _
  have hMark : (ones (n + 1)).head? ≠ some '\ufeff' := by simp [ones, List.replicate_succ]
  rw [read, String.toList_ofList, readChars, if_neg hMark, hStart, hValue]
  rfl

end QueryPlayground.Json
