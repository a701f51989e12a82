import Mathlib.Data.List.Chain
import Mathlib.Data.List.TakeWhile
import Mathlib.Tactic.SplitIfs
import QueryPlayground.Proofs.Page.Tokens

/-! The grammar of tokens. Whatever a text is, valid or not, each of its tagged tokens spells out the grammar of
its own kind and of no other: the first and last characters, by which the kind is told, give away how the
token was found. Untagged tokens are what is left over, and no digit is left over. -/
namespace QueryPlayground.Highlight

/-! ### The grammar -/

/-- A unit of a quoted string: an escape by code, an escape of one character, or a character that stands for
itself. -/
inductive IsUnit : List Char → Prop where
  | code {a b c d : Char} (ha : isCodeChar a = true) (hb : isCodeChar b = true) (hc : isCodeChar c = true)
      (hd : isCodeChar d = true) : IsUnit ['\\', 'u', a, b, c, d]
  | escape {c : Char} (hCode : c ≠ 'u') : IsUnit ['\\', c]
  | plain {c : Char} (hMark : c ≠ '"') (hSlash : c ≠ '\\') : IsUnit [c]

/-- A quoted string behind its opening mark: units, and the closing mark. -/
inductive IsQuotedTail : List Char → Prop where
  | close : IsQuotedTail ['"']
  | unit {first rest : List Char} (hFirst : IsUnit first) (hRest : IsQuotedTail rest) :
      IsQuotedTail (first ++ rest)

/-- A row of digits, of any script, that is not empty. -/
structure IsDigitRow (text : List Char) : Prop where
  nonempty : text ≠ []
  digit : ∀ c ∈ text, Text.isDigit c = true

/-- The fraction of a number, if there is one. Its point may stand without digits. -/
inductive IsFractionPart : List Char → Prop where
  | none : IsFractionPart []
  | point {digits : List Char} (hDigits : ∀ c ∈ digits, Text.isDigit c = true) : IsFractionPart ('.' :: digits)

/-- The exponent of a number, if there is one. -/
inductive IsExponentPart : List Char → Prop where
  | none : IsExponentPart []
  | power {letter : Char} {sign digits : List Char} (hLetter : letter = 'e' ∨ letter = 'E')
      (hSign : sign = [] ∨ sign = ['+'] ∨ sign = ['-']) (hDigits : IsDigitRow digits) :
      IsExponentPart (letter :: (sign ++ digits))

/-- The texts of each kind. -/
inductive Spells : Kind → List Char → Prop where
  | key {tail gap : List Char} (hTail : IsQuotedTail tail) (hGap : ∀ c ∈ gap, Text.isBlank c = true) :
      Spells .key ('"' :: (tail ++ (gap ++ [':'])))
  | string {tail : List Char} (hTail : IsQuotedTail tail) : Spells .string ('"' :: tail)
  | yes : Spells .boolean ['t', 'r', 'u', 'e']
  | no : Spells .boolean ['f', 'a', 'l', 's', 'e']
  | null : Spells .null ['n', 'u', 'l', 'l']
  | number {sign digits fraction exponent : List Char} (hSign : sign = [] ∨ sign = ['-'])
      (hDigits : IsDigitRow digits) (hFraction : IsFractionPart fraction) (hExponent : IsExponentPart exponent) :
      Spells .number (sign ++ (digits ++ (fraction ++ exponent)))

/-! ### Kinds are told apart -/

theorem IsQuotedTail.getLast? {tail : List Char} (h : IsQuotedTail tail) : tail.getLast? = some '"' := by
  induction h with
  | close => rfl
  | unit _ _ ih => rw [List.getLast?_append, ih, Option.some_or]

theorem isDigit_ne {c d : Char} (hc : Text.isDigit c = true) (hd : Text.isDigit d = false) : c ≠ d := by
  rintro rfl
  rw [hc] at hd
  cases hd

/-- A number begins with its sign or a digit. -/
theorem number_head {sign digits after : List Char} (hSign : sign = [] ∨ sign = ['-']) (hDigits : IsDigitRow digits) :
    ∃ c rest, sign ++ (digits ++ after) = c :: rest ∧ (c = '-' ∨ Text.isDigit c = true) := by
  obtain ⟨d, digits, rfl⟩ := List.exists_cons_of_ne_nil hDigits.nonempty
  rcases hSign with rfl | rfl
  · exact ⟨d, _, rfl, .inr (hDigits.digit d (by simp))⟩
  · exact ⟨'-', _, rfl, .inl rfl⟩

/-- The kind that is told by the first and last characters is that of the text. -/
theorem Spells.classify {kind : Kind} {text : List Char} (h : Spells kind text) : classify text = kind := by
  cases h with
  | key =>
      rw [Highlight.classify, List.head?_cons, if_pos rfl, ← List.append_assoc, ← List.cons_append,
        List.getLast?_concat, if_pos rfl]
  | string hTail =>
      have hLast := hTail.getLast?
      rw [Highlight.classify, List.head?_cons, if_pos rfl, List.getLast?_cons, hLast]
      rfl
  | yes => rfl
  | no => rfl
  | null => rfl
  | number hSign hDigits =>
      obtain ⟨c, rest, hText, hHead⟩ := number_head hSign hDigits
      have hOther : ∀ d, d ≠ '-' → Text.isDigit d = false → c ≠ d := fun d hMinus hDigit =>
        hHead.elim (fun hc => by rw [hc]; exact hMinus.symm) fun hc => isDigit_ne hc hDigit
      have hMark : c ≠ '"' := hOther _ (by decide) rfl
      have hTrue : c ≠ 't' := hOther _ (by decide) rfl
      have hFalse : c ≠ 'f' := hOther _ (by decide) rfl
      have hNull : c ≠ 'n' := hOther _ (by decide) rfl
      rw [hText]
      simp [Highlight.classify, hMark, hTrue, hFalse, hNull]

/-! ### What is tagged spells out a kind -/

theorem isQuotedTail_take {s : List Char} {n : Nat} (h : stringReach? s = some n) : IsQuotedTail (s.take n) := by
  fun_induction stringReach? s generalizing n with
  | case1 => cases h
  | case2 rest =>
      cases h
      exact .close
  | case3 a b c d rest hCode ih =>
      obtain ⟨m, hReach, rfl⟩ := Option.map_eq_some_iff.mp h
      simp only [Bool.and_eq_true] at hCode
      exact .unit (.code hCode.1.1.1 hCode.1.1.2 hCode.1.2 hCode.2) (ih hReach)
  | case4 => cases h
  | case5 => cases h
  | case6 c rest _ hCode ih =>
      obtain ⟨m, hReach, rfl⟩ := Option.map_eq_some_iff.mp h
      exact .unit (.escape hCode) (ih hReach)
  | case7 => cases h
  | case8 c rest hMark _ _ hMore hEnd ih =>
      obtain ⟨m, hReach, rfl⟩ := Option.map_eq_some_iff.mp h
      have hSlash : c ≠ '\\' := by
        intro hSlash
        cases rest with
        | nil => exact hEnd hSlash rfl
        | cons d rest => exact hMore d rest hSlash rfl
      exact .unit (.plain hMark hSlash) (ih hReach)

/-- A colon that is reached has nothing but blanks in front of it. -/
theorem colonReach_take (s : List Char) :
    colonReach s = 0 ∨ ∃ gap, (∀ c ∈ gap, Text.isBlank c = true) ∧ s.take (colonReach s) = gap ++ [':'] := by
  unfold colonReach
  split
  next rest hColon =>
      have hSplit := List.takeWhile_append_dropWhile (p := Text.isBlank) (l := s)
      rw [hColon] at hSplit
      refine .inr ⟨s.takeWhile Text.isBlank, fun c hc => List.mem_takeWhile_imp hc, ?_⟩
      calc s.take ((s.takeWhile Text.isBlank).length + 1)
        _ = (s.takeWhile Text.isBlank ++ ':' :: rest).take ((s.takeWhile Text.isBlank).length + 1) := by rw [hSplit]
        _ = s.takeWhile Text.isBlank ++ [':'] := List.take_length_add_append 1
  next => exact .inl rfl

theorem digitReach_take (s : List Char) : s.take (digitReach s) = s.takeWhile Text.isDigit :=
  (List.prefix_iff_eq_take.mp (List.takeWhile_prefix _)).symm

theorem isDigit_of_mem_digitReach_take {s : List Char} : ∀ c ∈ s.take (digitReach s), Text.isDigit c = true := by
  intro c hc
  rw [digitReach_take] at hc
  exact List.mem_takeWhile_imp hc

theorem isDigitRow_digitReach_take {s : List Char} (h : digitReach s ≠ 0) : IsDigitRow (s.take (digitReach s)) where
  nonempty := by
    rw [digitReach_take]
    exact fun hNil => h (by rw [digitReach, hNil]; rfl)
  digit := isDigit_of_mem_digitReach_take

theorem isFractionPart_take (s : List Char) : IsFractionPart (s.take (fractionReach s)) := by
  unfold fractionReach
  split
  next rest => exact .point isDigit_of_mem_digitReach_take
  next => exact .none

/-- An exponent's letter looks for a sign, and behind it for digits. -/
theorem exponentReach_cons (c : Char) (rest : List Char) :
    ∃ sign, (rest.take sign = [] ∨ rest.take sign = ['+'] ∨ rest.take sign = ['-']) ∧
      exponentReach (c :: rest) =
        if c = 'e' ∨ c = 'E' then
          if digitReach (rest.drop sign) = 0 then 0 else digitReach (rest.drop sign) + sign + 1
        else 0 := by
  refine ⟨_, ?_, rfl⟩
  split
  next => exact .inr (.inl rfl)
  next => exact .inr (.inr rfl)
  next => exact .inl rfl

theorem isExponentPart_take (s : List Char) : IsExponentPart (s.take (exponentReach s)) := by
  cases s with
  | nil => exact .none
  | cons c rest =>
      obtain ⟨sign, hSign, hReach⟩ := exponentReach_cons c rest
      rw [hReach]
      split_ifs with hLetter hDigits
      · exact .none
      · rw [Nat.add_comm _ sign, List.take_succ_cons, List.take_add]
        exact .power hLetter hSign (isDigitRow_digitReach_take hDigits)
      · exact .none

/-- What stands behind the first digits of a number. -/
theorem afterDigitsReach_take (s : List Char) :
    ∃ fraction exponent, IsFractionPart fraction ∧ IsExponentPart exponent ∧
      s.take (afterDigitsReach s) = fraction ++ exponent := by
  refine ⟨_, _, isFractionPart_take s, isExponentPart_take (s.drop (fractionReach s)), ?_⟩
  rw [afterDigitsReach, List.take_add]

/-- A word with its first letter spells out a kind. -/
theorem spells_word {c : Char} {tail : List Char} (h : wordTail? c = some tail) :
    ∃ kind, Spells kind (c :: tail) := by
  unfold wordTail? at h
  split_ifs at h with hTrue hFalse hNull
  · cases h
    subst hTrue
    exact ⟨_, .yes⟩
  · cases h
    subst hFalse
    exact ⟨_, .no⟩
  · cases h
    subst hNull
    exact ⟨_, .null⟩

/-- A token that is found spells out a kind. One case for each way to find it. -/
theorem spells_of_tagReach? {afterWord : Bool} {c : Char} {rest : List Char} {n : Nat}
    (h : tagReach? afterWord c rest = some n) : ∃ kind, Spells kind (c :: rest.take n) := by
  unfold tagReach? at h
  dsimp only at h
  split_ifs at h with hMark hMinus hDigits hDigit
  · obtain ⟨m, hReach, rfl⟩ := Option.map_eq_some_iff.mp h
    have hTail := isQuotedTail_take hReach
    rw [hMark, List.take_add]
    rcases colonReach_take (rest.drop m) with hColon | ⟨gap, hGap, hColon⟩
    · rw [hColon, List.take_zero, List.append_nil]
      exact ⟨_, .string hTail⟩
    · rw [hColon]
      exact ⟨_, .key hTail hGap⟩
  · obtain ⟨fraction, exponent, hFraction, hExponent, hAfter⟩ := afterDigitsReach_take (rest.drop (digitReach rest))
    cases h
    rw [hMinus, List.take_add, hAfter]
    exact ⟨_, .number (.inr rfl) (isDigitRow_digitReach_take hDigits) hFraction hExponent⟩
  · obtain ⟨fraction, exponent, hFraction, hExponent, hAfter⟩ := afterDigitsReach_take (rest.drop (digitReach rest))
    have hRow : IsDigitRow (c :: rest.take (digitReach rest)) :=
      ⟨List.cons_ne_nil _ _, List.forall_mem_cons.mpr ⟨hDigit, isDigit_of_mem_digitReach_take⟩⟩
    cases h
    rw [List.take_add, hAfter]
    exact ⟨_, .number (.inl rfl) hRow hFraction hExponent⟩
  · split at h
    next tail hWord =>
        split_ifs at h with hAlone
        cases h
        simp only [Bool.and_eq_true, List.isPrefixOf_iff_prefix] at hAlone
        rw [← List.prefix_iff_eq_take.mp hAlone.1.2]
        exact spells_word hWord
    next => cases h

/-! ### Runs of the scan -/

/-- What holds of the tokens of every text. The text of a tagged token is one of its kind and of no other, so
that nothing is lost where the kind is told by the text alone. -/
structure Sound (tokens : List Token) : Prop where
  nonempty : ∀ token ∈ tokens, token.text ≠ []
  apart : tokens.IsChain fun first second => first.kind = none → second.kind ≠ none
  plain : ∀ token ∈ tokens, token.kind = none → ∀ c ∈ token.text, Text.isDigit c = false
  tagged : ∀ token ∈ tokens, ∀ kind, token.kind = some kind → ∀ other, Spells other token.text ↔ other = kind

theorem sound_nil : Sound [] := ⟨by simp, .nil, by simp, by simp⟩

/-- A character that starts no token is no digit, and so may join the untagged ones. -/
theorem isDigit_of_tagReach?_none {afterWord : Bool} {c : Char} {rest : List Char}
    (h : tagReach? afterWord c rest = none) : Text.isDigit c = false := by
  by_contra hDigit
  rw [Bool.not_eq_false] at hDigit
  have hMark : c ≠ '"' := isDigit_ne hDigit rfl
  have hMinus : c ≠ '-' := isDigit_ne hDigit rfl
  rw [tagReach?, if_neg hMark, if_neg hMinus, if_pos hDigit] at h
  cases h

/-- An untagged token in front is sound if the next one is tagged. -/
theorem Sound.cons_plain {text : List Char} (hText : text ≠ []) (hPlain : ∀ c ∈ text, Text.isDigit c = false)
    {tokens : List Token} (hNext : ∀ token ∈ tokens.head?, token.kind ≠ none) (h : Sound tokens) :
    Sound (⟨text, none⟩ :: tokens) where
  nonempty := List.forall_mem_cons.mpr ⟨hText, h.nonempty⟩
  apart := List.isChain_cons.mpr ⟨fun token hToken _ => hNext token hToken, h.apart⟩
  plain := List.forall_mem_cons.mpr ⟨fun _ => hPlain, h.plain⟩
  tagged := List.forall_mem_cons.mpr ⟨nofun, h.tagged⟩

theorem Sound.tail {token : Token} {tokens : List Token} (h : Sound (token :: tokens)) : Sound tokens where
  nonempty := (List.forall_mem_cons.mp h.nonempty).2
  apart := h.apart.tail
  plain := (List.forall_mem_cons.mp h.plain).2
  tagged := (List.forall_mem_cons.mp h.tagged).2

/-- An untagged character joins an untagged token behind it, and else is a token of its own. -/
theorem Sound.consPlain {c : Char} (hc : Text.isDigit c = false) {tokens : List Token} (h : Sound tokens) :
    Sound (consPlain c tokens) := by
  have hAlone : ∀ d ∈ [c], Text.isDigit d = false := List.forall_mem_singleton.mpr hc
  cases tokens with
  | nil => exact h.cons_plain (List.cons_ne_nil _ _) hAlone nofun
  | cons token rest =>
      obtain ⟨text, kind⟩ := token
      cases kind with
      | none =>
          have hPlain := (List.forall_mem_cons.mp h.plain).1 rfl
          have hNext : ∀ token ∈ rest.head?, token.kind ≠ none := fun token hToken =>
            (List.isChain_cons.mp h.apart).1 token hToken rfl
          exact h.tail.cons_plain (List.cons_ne_nil _ _) (List.forall_mem_cons.mpr ⟨hc, hPlain⟩) hNext
      | some kind =>
          refine h.cons_plain (List.cons_ne_nil _ _) hAlone ?_
          rintro token ⟨⟩
          exact Option.some_ne_none kind

theorem Sound.cons_tagged {c : Char} {text : List Char} {kind : Kind} (hText : Spells kind (c :: text))
    {tokens : List Token} (h : Sound tokens) :
    Sound (⟨c :: text, some (Highlight.classify (c :: text))⟩ :: tokens) where
  nonempty := List.forall_mem_cons.mpr ⟨List.cons_ne_nil _ _, h.nonempty⟩
  apart := List.isChain_cons.mpr ⟨fun _ _ => nofun, h.apart⟩
  plain := List.forall_mem_cons.mpr ⟨nofun, h.plain⟩
  tagged := by
    refine List.forall_mem_cons.mpr ⟨?_, h.tagged⟩
    rintro told ⟨⟩ other
    rw [hText.classify]
    constructor
    · intro hOther
      rw [← hOther.classify, hText.classify]
    · rintro rfl
      exact hText

/-- The tokens of a text are sound, whatever stands before it. The induction follows the scan. -/
theorem sound_tokensFrom (afterWord : Bool) (s : List Char) : Sound (tokensFrom afterWord s) := by
  fun_induction tokensFrom afterWord s with
  | case1 => exact sound_nil
  | case2 afterWord c rest n hReach text ih =>
      obtain ⟨kind, hText⟩ := spells_of_tagReach? hReach
      exact ih.cons_tagged hText
  | case3 afterWord c rest hReach ih => exact ih.consPlain (isDigit_of_tagReach?_none hReach)

/-- Every text is the texts of its tokens put together. None of them is empty, untagged ones neither stand
next to each other nor hold a digit, and tagged ones spell out their own kind and no other. -/
theorem tokens_lossless_sound (text : List Char) :
    (tokens text).flatMap Token.text = text ∧ Sound (tokens text) :=
  ⟨tokens_flatMap_text text, sound_tokensFrom false text⟩

end QueryPlayground.Highlight
