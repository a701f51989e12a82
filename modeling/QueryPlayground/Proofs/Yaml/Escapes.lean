import QueryPlayground.Proofs.Text.Digits
import QueryPlayground.Proofs.Yaml.Keeping
import QueryPlayground.Proofs.Yaml.Values
import QueryPlayground.Yaml.Token

/-! Reading the characters of a settings text. The cursor never leaves the text. What is read has a value, with two
exceptions that stand in the text: an escape by a code that no character has, and a number with more digits than
integers are read from. -/
namespace QueryPlayground.Yaml

/-- The number that hexadecimal digits denote. -/
def hexCode (digits : List Char) : Nat := digits.foldl (fun n c => 16 * n + (Text.hexValue? c).getD 0) 0

/-- What a text spells that has no value. -/
inductive Misspells (text : List Char) : ValueFault → Prop where
  | character {digits : List Char} (hEscape : '\\' :: 'U' :: digits <:+: text) (hLength : digits.length = 8)
      (hDigits : ∀ c ∈ digits, (Text.hexValue? c).isSome) (hCode : 0x110000 ≤ hexCode digits)
      (hSmall : hexCode digits ≤ 0x7fffffff) : Misspells text .character
  | characterTooLarge {digits : List Char} (hEscape : '\\' :: 'U' :: digits <:+: text) (hLength : digits.length = 8)
      (hDigits : ∀ c ∈ digits, (Text.hexValue? c).isSome) (hCode : 0x7fffffff < hexCode digits) :
      Misspells text .characterTooLarge
  | number {digits : List Char} (hRow : digits <:+: text) (hDigits : ∀ c ∈ digits, Binary64.isAsciiDigit c)
      (hLong : Text.maxIntegerDigits < digits.length) : Misspells text (.integer (.tooLong digits.length))

/-- A cursor in the text of a source. -/
structure Cursor.In (source : Source) (cursor : Cursor) : Prop where
  rest : cursor.rest <:+ source.text
  breaksOff : cursor.breaksOff = source.ending.isSome

theorem Cursor.in_ofSource (source : Source) : (Cursor.ofSource source).In source := ⟨List.suffix_refl _, rfl⟩

theorem Cursor.In.next {source : Source} {cursor : Cursor} (h : cursor.In source) : cursor.next.In source := by
  unfold Cursor.next
  split
  next => exact h
  next c rest hRest =>
      have hTail : rest <:+ source.text := (List.suffix_cons c rest).trans (hRest ▸ h.rest)
      split
      next => exact ⟨hTail, h.breaksOff⟩
      split
      next => exact ⟨hTail, h.breaksOff⟩
      next => exact ⟨hTail, h.breaksOff⟩

theorem Cursor.In.advance {source : Source} {cursor : Cursor} (h : cursor.In source) (n : Nat) :
    (cursor.advance n).In source := by
  induction n generalizing cursor with
  | zero => exact h
  | succ n ih => exact ih h.next

theorem hexValue?_lt {c : Char} {n : Nat} (h : Text.hexValue? c = some n) : n < 16 := by
  unfold Text.hexValue? at h
  simp only [Char.le_def, UInt32.le_iff_toNat_le] at h
  change (if 48 ≤ c.toNat ∧ c.toNat ≤ 57 then _ else if 97 ≤ c.toNat ∧ c.toNat ≤ 102 then _
    else if 65 ≤ c.toNat ∧ c.toNat ≤ 70 then _ else _) = _ at h
  split at h
  next => cases h; omega
  split at h
  next => cases h; omega
  split at h
  next => cases h; omega
  next => cases h

/-- Digits denote a number below the power of the base with as many factors. -/
theorem hexCode_lt (digits : List Char) : hexCode digits < Nat.pow 16 digits.length := by
  have hFrom : ∀ n, digits.foldl (fun n c => 16 * n + (Text.hexValue? c).getD 0) n <
      (n + 1) * Nat.pow 16 digits.length := by
    induction digits with
    | nil => exact fun n => (Nat.mul_one (n + 1)).symm ▸ Nat.lt_succ_self n
    | cons c digits ih =>
        intro n
        have hDigit : (Text.hexValue? c).getD 0 < 16 := by
          cases hValue : Text.hexValue? c with
          | none => decide
          | some value => exact hexValue?_lt hValue
        calc _ < (16 * n + (Text.hexValue? c).getD 0 + 1) * Nat.pow 16 digits.length := ih _
          _ ≤ ((n + 1) * 16) * Nat.pow 16 digits.length := Nat.mul_le_mul_right _ (by omega)
          _ = (n + 1) * (Nat.pow 16 digits.length * 16) := by rw [Nat.mul_assoc, Nat.mul_comm 16]
  have hZero := hFrom 0
  rwa [Nat.zero_add, Nat.one_mul] at hZero

/-- The escapes of codes with eight digits begin with a letter of their own. -/
theorem eq_of_codeLength? {c : Char} {digits : List Char} (h : codeLength? c = some digits.length)
    (hCode : 0x110000 ≤ hexCode digits) : c = 'U' ∧ digits.length = 8 := by
  have hBound := hexCode_lt digits
  have hLength : (c = 'x' ∧ digits.length = 2) ∨ (c = 'u' ∧ digits.length = 4) ∨ (c = 'U' ∧ digits.length = 8) := by
    unfold codeLength? at h
    simp only [List.lookup_cons] at h
    split at h
    next hLetter => exact .inl ⟨by simpa using hLetter, (Option.some.inj h).symm⟩
    split at h
    next hLetter => exact .inr (.inl ⟨by simpa using hLetter, (Option.some.inj h).symm⟩)
    split at h
    next hLetter => exact .inr (.inr ⟨by simpa using hLetter, (Option.some.inj h).symm⟩)
    next => cases h
  rcases hLength with ⟨-, hTwo⟩ | ⟨-, hFour⟩ | hEight
  · have hPower : Nat.pow 16 2 = 0x100 := rfl
    rw [hTwo, hPower] at hBound
    omega
  · have hPower : Nat.pow 16 4 = 0x10000 := rfl
    rw [hFour, hPower] at hBound
    omega
  · exact hEight

/-- Of the escapes only those by a code that no character has are refused. -/
theorem ends_charOfCode {breaks : Prop} {text digits : List Char} {c : Char} (hEscape : '\\' :: c :: digits <:+: text)
    (hLetter : codeLength? c = some digits.length) (hDigits : ∀ c ∈ digits, (Text.hexValue? c).isSome) :
    Ends (fun _ => True) (Fault.IsFor breaks (Misspells text)) (charOfCode (hexCode digits)) := by
  unfold charOfCode
  split
  next hLarge =>
      obtain ⟨rfl, hLength⟩ := eq_of_codeLength? hLetter (by omega)
      exact Misspells.characterTooLarge hEscape hLength hDigits hLarge
  split
  next hSmall hCode =>
      obtain ⟨rfl, hLength⟩ := eq_of_codeLength? hLetter hCode
      exact Misspells.character hEscape hLength hDigits hCode (by omega)
  split <;> trivial

/-- A character that is not the mark of the end stands in the text. -/
theorem rest_eq_cons {rest : List Char} {c : Char} (h : rest.getD 0 endMark = c) (hEnd : c ≠ endMark) :
    ∃ tail, rest = c :: tail := by
  cases rest with
  | nil => exact absurd h.symm hEnd
  | cons first tail => exact ⟨tail, congrArg (· :: tail) h⟩

theorem Cursor.next_rest {cursor : Cursor} {c : Char} {tail : List Char} (h : cursor.rest = c :: tail) :
    cursor.next.rest = tail := by
  unfold Cursor.next
  rw [h]
  dsimp only
  split
  next => rfl
  split
  next => rfl
  next => rfl

namespace Reading

variable {α : Type} {source : Source}

/-- Why reading from a source fails: the text breaks a rule, it breaks off, or it spells something without a
value. -/
abbrev Cause (source : Source) : Fault → Prop := Fault.IsFor source.ending.isSome (Misspells source.text)

/-- Reading that stays in the text of a source. -/
abbrev Stays (source : Source) (act : Reading α) : Prop := Keeps (Cursor.In source) (Cause source) act fun _ => True

/-- Whatever is read, it is the cursor that has to stay. -/
theorem stays_iff {act : Reading α} :
    Stays source act ↔ ∀ cursor : Cursor, cursor.In source →
      Ends (fun done => done.2.In source) (Cause source) (act.run cursor) := by
  constructor
  · exact fun h cursor hIn => (h cursor hIn).mono (fun _ hDone => hDone.2) fun _ => id
  · exact fun h cursor hIn => (h cursor hIn).mono (fun _ hDone => ⟨trivial, hDone⟩) fun _ => id

/-! ### Characters -/

theorem stays_refuse : Stays source (refuse : Reading α) := keeps_throw trivial _

/-- Asking for characters leaves the cursor where it is. -/
theorem ends_ask {cursor : Cursor} (hIn : cursor.In source) (n : Nat) :
    Ends (fun done => done = ((), cursor)) (Cause source) ((ask n).run cursor) := by
  have hRun : (ask n).run cursor =
      (if cursor.breaksOff ∧ n ≠ 0 ∧ (cursor.rest.drop (n - 1)).isEmpty then throw .broken else pure () :
        Reading Unit).run cursor := rfl
  rw [hRun]
  split
  next hBreaks => exact (hIn.breaksOff.symm.trans hBreaks.1 : source.ending.isSome = true)
  next => rfl

theorem stays_ask (n : Nat) : Stays source (ask n) := by
  refine stays_iff.mpr fun cursor hIn => (ends_ask hIn n).mono ?_ fun _ => id
  rintro _ rfl
  exact hIn

/-- What is looked at is a character of the text, or what stands for the end; the cursor stays where it is. -/
theorem ends_peekAt {cursor : Cursor} (hIn : cursor.In source) (n : Nat) :
    Ends (fun done => done = (cursor.rest.getD n endMark, cursor)) (Cause source) ((peekAt n).run cursor) := by
  unfold peekAt
  rw [StateT.run_bind]
  refine (ends_ask hIn _).bind ?_
  rintro _ rfl
  rfl

theorem stays_peekAt (n : Nat) : Stays source (peekAt n) := by
  refine stays_iff.mpr fun cursor hIn => (ends_peekAt hIn n).mono ?_ fun _ => id
  rintro _ rfl
  exact hIn

theorem ends_peek {cursor : Cursor} (hIn : cursor.In source) :
    Ends (fun done => done = (cursor.rest.getD 0 endMark, cursor)) (Cause source) (peek.run cursor) :=
  ends_peekAt hIn 0

theorem stays_peek : Stays source peek := stays_peekAt 0

theorem ends_skip {cursor : Cursor} (hIn : cursor.In source) (n : Nat) :
    Ends (fun done => done = ((), cursor.advance n)) (Cause source) ((skip n).run cursor) := by
  unfold skip
  rw [StateT.run_bind]
  refine (ends_ask hIn _).bind ?_
  rintro _ rfl
  rfl

theorem stays_skip (n : Nat) : Stays source (skip n) := by
  refine stays_iff.mpr fun cursor hIn => (ends_skip hIn n).mono ?_ fun _ => id
  rintro _ rfl
  exact hIn.advance n

theorem stays_takeAll (p : Char → Bool) : Stays source (takeAll p) := by
  unfold takeAll
  exact keeps_get.then fun cursor => (stays_skip _).then fun _ => keeps_done _

theorem stays_skipAll (p : Char → Bool) : Stays source (skipAll p) := by
  unfold skipAll
  exact (stays_takeAll p).then fun _ => keeps_done _

theorem stays_skipSpaces : Stays source skipSpaces := stays_skipAll _

theorem ends_expect {cursor : Cursor} (hIn : cursor.In source) (p : Char → Bool) :
    Ends (fun done => p (cursor.rest.getD 0 endMark) = true ∧ done = ((), cursor)) (Cause source)
      ((expect p).run cursor) := by
  unfold expect
  rw [StateT.run_bind]
  refine (ends_peek hIn).bind ?_
  rintro _ rfl
  dsimp only
  split
  next hExpected => exact ⟨hExpected, rfl⟩
  next => trivial

theorem stays_expect (p : Char → Bool) : Stays source (expect p) := by
  refine stays_iff.mpr fun cursor hIn => (ends_expect hIn p).mono ?_ fun _ => id
  rintro _ ⟨-, rfl⟩
  exact hIn

theorem stays_column : Stays source column := by
  unfold column
  exact keeps_get.then fun _ => keeps_done _

theorem stays_bound : Stays source bound := by
  unfold bound
  exact keeps_get.then fun _ => keeps_done _

theorem stays_takeBreak : Stays source takeBreak := by
  unfold takeBreak
  refine stays_peek.then fun c => Keeps.ite ?_ (Keeps.ite ?_ (keeps_done _))
  · exact (stays_ask _).then fun _ => keeps_get.then fun _ => (stays_skip _).then fun _ => keeps_done _
  · exact (stays_skip _).then fun _ => keeps_done _

theorem stays_atMarks (mark : Char) : Stays source (atMarks mark) := by
  unfold atMarks
  refine (stays_ask _).then fun _ => keeps_get.then fun _ => Keeps.ite ?_ (keeps_done _)
  exact (stays_peekAt _).then fun _ => keeps_done _

theorem stays_atSeparator : Stays source atSeparator := by
  unfold atSeparator
  exact (stays_atMarks _).then fun _ => (keeps_done _).ite (stays_atMarks _)

theorem stays_skipComment : Stays source skipComment := by
  unfold skipComment
  exact stays_peek.then fun _ => (stays_skipAll _).ite (keeps_done _)

theorem stays_skipLineEnd : Stays source skipLineEnd := by
  unfold skipLineEnd
  exact stays_skipSpaces.then fun _ => stays_skipComment.then fun _ => (stays_expect _).then fun _ =>
    stays_takeBreak.then fun _ => keeps_done _

/-! ### Quoted scalars -/

theorem stays_quotedBreaks (fuel : Nat) (pieces : List (List Char)) : Stays source (quotedBreaks fuel pieces) := by
  induction fuel generalizing pieces with
  | zero => exact keeps_done _
  | succ fuel ih =>
      unfold quotedBreaks
      refine stays_atSeparator.then fun _ => Keeps.unless (fun _ => trivial) ?_
      refine (stays_skipAll _).then fun _ => stays_peek.then fun c => Keeps.ite ?_ (keeps_done _)
      exact stays_takeBreak.then fun _ => ih _

theorem stays_quotedSpaces : Stays source quotedSpaces := by
  unfold quotedSpaces
  refine (stays_takeAll _).then fun blanks => stays_peek.then fun c => Keeps.ite ?_ (Keeps.ite ?_ (keeps_done _))
  · exact stays_refuse
  · exact stays_takeBreak.then fun _ => stays_bound.then fun _ => (stays_quotedBreaks _ _).then fun _ => keeps_done _

/-! ### Escapes -/

/-- The next hexadecimal digits are read as the number that they denote. -/
theorem ends_hexNumber {cursor : Cursor} (hIn : cursor.In source) (place value count : Nat) :
    Ends (fun done => done.2 = cursor ∧ ∃ digits, digits <+: cursor.rest.drop place ∧ digits.length = count ∧
        (∀ c ∈ digits, (Text.hexValue? c).isSome) ∧
        done.1 = digits.foldl (fun n c => 16 * n + (Text.hexValue? c).getD 0) value)
      (Cause source) ((hexNumber place value count).run cursor) := by
  induction count generalizing place value with
  | zero => exact ⟨rfl, [], List.nil_prefix, rfl, by simp, rfl⟩
  | succ count ih =>
      unfold hexNumber
      rw [StateT.run_bind]
      refine (ends_peekAt hIn place).bind ?_
      rintro _ rfl
      dsimp only
      split
      next => trivial
      next digit hDigit =>
          refine (ih (place + 1) (16 * value + digit)).mono ?_ fun _ => id
          rintro done ⟨hCursor, digits, hPrefix, hLength, hDigits, hValue⟩
          refine ⟨hCursor, cursor.rest.getD place endMark :: digits, ?_, by rw [List.length_cons, hLength], ?_, ?_⟩
          · have hPlace : place < cursor.rest.length := by
              refine Nat.lt_of_not_le fun hEnd => ?_
              rw [List.getD_eq_getElem?_getD, List.getElem?_eq_none hEnd] at hDigit
              cases hDigit
            rw [List.drop_eq_getElem_cons hPlace, List.getD_eq_getElem?_getD, List.getElem?_eq_getElem hPlace]
            exact List.cons_prefix_cons.mpr ⟨rfl, hPrefix⟩
          · exact List.forall_mem_cons.mpr ⟨by rw [hDigit]; rfl, hDigits⟩
          · rw [List.foldl_cons, hDigit]
            exact hValue

theorem stays_hexNumber (place value count : Nat) : Stays source (hexNumber place value count) := by
  refine stays_iff.mpr fun cursor hIn => (ends_hexNumber hIn place value count).mono ?_ fun _ => id
  rintro done ⟨hCursor, -⟩
  exact hCursor ▸ hIn

/-- An escape behind its backslash: its code is that of a character, or none has it. -/
theorem ends_escape {cursor : Cursor} (hIn : cursor.In source) (hBackslash : '\\' :: cursor.rest <:+ source.text) :
    Ends (fun done => done.2.In source) (Cause source) (escape.run cursor) := by
  unfold escape
  rw [StateT.run_bind]
  refine (ends_peek hIn).bind ?_
  rintro _ rfl
  generalize hHead : cursor.rest.getD 0 endMark = c
  dsimp only
  split
  next e _ =>
      have hLetter : Stays source (do skip 1; return [e]) := (stays_skip _).then fun _ => keeps_done _
      exact stays_iff.mp hLetter cursor hIn
  next size _ hLength =>
      obtain ⟨tail, hRest⟩ := rest_eq_cons hHead (by rintro rfl; cases hLength)
      rw [StateT.run_bind]
      refine (ends_skip hIn 1).bind ?_
      rintro _ rfl
      rw [StateT.run_bind]
      refine (ends_hexNumber hIn.next 0 0 size).bind ?_
      rintro ⟨code, _⟩ ⟨rfl, digits, hPrefix, rfl, hDigits, hCode⟩
      rw [List.drop_zero, Cursor.next_rest hRest] at hPrefix
      have hEscape : '\\' :: c :: digits <:+: source.text := by
        rw [hRest] at hBackslash
        exact List.IsInfix.trans (List.IsPrefix.isInfix (by simpa using hPrefix)) hBackslash.isInfix
      subst hCode
      have hChar : Stays source (do
          let e ← liftM (charOfCode (hexCode digits))
          skip digits.length
          return [e]) :=
        (keeps_lift (ends_charOfCode hEscape hLength hDigits)).then fun e =>
          (stays_skip _).then fun _ => keeps_done _
      exact stays_iff.mp hChar _ hIn.next
  next =>
      have hBreak : Stays source (if isBreak c then do let _ ← takeBreak; quotedBreaks (← bound) [] else refuse) :=
        Keeps.ite (stays_takeBreak.then fun _ => stays_bound.then fun _ => stays_quotedBreaks _ _) stays_refuse
      exact stays_iff.mp hBreak cursor hIn

theorem stays_quotedText (double : Bool) (fuel : Nat) (pieces : List (List Char)) :
    Stays source (quotedText double fuel pieces) := by
  induction fuel generalizing pieces with
  | zero => exact stays_refuse
  | succ fuel ih =>
      unfold quotedText
      refine (stays_takeAll _).then fun taken => ?_
      -- An escape stands behind a backslash only, so the cursor must be followed from the backslash on.
      intro cursor hIn
      rw [StateT.run_bind]
      refine (ends_peek hIn).bind ?_
      rintro _ rfl
      generalize hHead : cursor.rest.getD 0 endMark = c
      dsimp only
      split
      next =>
          have hApostrophe : Stays source (do
              if (← peekAt 1) == '\'' then
                skip 2
                quotedText double fuel (['\''] :: taken :: pieces)
              else
                skip 1
                return gathered (taken :: pieces)) :=
            (stays_peekAt _).then fun _ => Keeps.ite ((stays_skip _).then fun _ => ih _)
              ((stays_skip _).then fun _ => keeps_done _)
          exact hApostrophe cursor hIn
      split
      next =>
          have hClosing : Stays source (do skip 1; return gathered (taken :: pieces)) :=
            (stays_skip _).then fun _ => keeps_done _
          exact hClosing cursor hIn
      split
      next hBackslash =>
          obtain ⟨tail, hRest⟩ := rest_eq_cons hHead (by rintro rfl; simp [endMark] at hBackslash)
          obtain rfl : c = '\\' := by simpa using (Bool.and_eq_true_iff.mp hBackslash).2
          rw [StateT.run_bind]
          refine (ends_skip hIn 1).bind ?_
          rintro _ rfl
          rw [StateT.run_bind]
          refine (ends_escape hIn.next ?_).bind fun done hDone => ih _ _ hDone
          rw [Cursor.next_rest hRest, ← hRest]
          exact hIn.rest
      split
      next =>
          have hMark : Stays source (do skip 1; quotedText double fuel ([c] :: taken :: pieces)) :=
            (stays_skip _).then fun _ => ih _
          exact hMark cursor hIn
      next =>
          have hSpaces : Stays source (do quotedText double fuel ((← quotedSpaces) :: taken :: pieces)) :=
            stays_quotedSpaces.then fun _ => ih _
          exact hSpaces cursor hIn

theorem stays_quotedScalar (double : Bool) : Stays source (quotedScalar double) := by
  unfold quotedScalar
  exact (stays_skip _).then fun _ => stays_bound.then fun _ => stays_quotedText _ _ _

/-! ### Plain scalars -/

theorem stays_plainPart (inFlow : Bool) : Stays source (plainPart inFlow) := by
  unfold plainPart
  refine keeps_get.then fun cursor => (stays_peekAt _).then fun c => (stays_ask _).then fun _ => ?_
  exact Keeps.ite ((stays_skip _).then fun _ => keeps_done _) (keeps_done _)

theorem stays_plainBreaks (fuel : Nat) (pieces : List (List Char)) : Stays source (plainBreaks fuel pieces) := by
  induction fuel generalizing pieces with
  | zero => exact keeps_done _
  | succ fuel ih =>
      unfold plainBreaks
      refine stays_peek.then fun c => Keeps.ite ?_ (Keeps.ite ?_ (keeps_done _))
      · exact (stays_skip _).then fun _ => ih _
      · exact stays_takeBreak.then fun _ => stays_atSeparator.then fun _ => (keeps_done _).ite (ih _)

theorem stays_plainSpaces : Stays source plainSpaces := by
  unfold plainSpaces
  refine (stays_takeAll _).then fun blanks => stays_peek.then fun c => Keeps.ite ?_ (keeps_done _)
  refine stays_takeBreak.then fun _ => stays_atSeparator.then fun _ => Keeps.ite (keeps_done _) ?_
  refine stays_bound.then fun _ => (stays_plainBreaks _ _).then fun breaks => ?_
  split <;> exact keeps_done _

theorem stays_plainText (inFlow : Bool) (indent : Int) (fuel : Nat) (pieces : List (List Char)) (spaces : List Char)
    (atBreak : Bool) : Stays source (plainText inFlow indent fuel pieces spaces atBreak) := by
  induction fuel generalizing pieces spaces atBreak with
  | zero => exact keeps_done _
  | succ fuel ih =>
      unfold plainText
      refine stays_peek.then fun c => Keeps.ite (keeps_done _) ?_
      refine (stays_plainPart _).then fun part => Keeps.ite (keeps_done _) ?_
      refine stays_plainSpaces.then fun ⟨spaces, atBreak⟩ => Keeps.ite (keeps_done _) ?_
      exact stays_peek.then fun c => stays_column.then fun _ => (keeps_done _).ite (ih _ _ _)

theorem stays_plainScalar (inFlow : Bool) (indent : Int) : Stays source (plainScalar inFlow indent) := by
  unfold plainScalar
  exact stays_bound.then fun _ => stays_plainText _ _ _ _ _ _

/-! ### Block scalars -/

theorem stays_takeChomping? : Stays source takeChomping? := by
  unfold takeChomping?
  refine stays_peek.then fun c => ?_
  split
  · exact (stays_skip _).then fun _ => keeps_done _
  · exact (stays_skip _).then fun _ => keeps_done _
  · exact keeps_done _

theorem stays_takeIncrement? : Stays source takeIncrement? := by
  unfold takeIncrement?
  refine stays_peek.then fun c => Keeps.ite stays_refuse (Keeps.ite ?_ (keeps_done _))
  exact (stays_skip _).then fun _ => keeps_done _

theorem stays_blockIndicators : Stays source blockIndicators := by
  unfold blockIndicators
  have hEnd : ∀ indicators : Option Chomping × Option Nat, Stays source (do
      expect isSpaceOrEnd
      return (indicators.1.getD .clip, indicators.2)) := fun _ => (stays_expect _).then fun _ => keeps_done _
  refine stays_takeChomping?.then fun chomping => ?_
  split
  · exact stays_takeIncrement?.then fun _ => hEnd (_, _)
  · refine stays_takeIncrement?.then fun increment => ?_
    split
    · exact stays_takeChomping?.then fun _ => hEnd (_, _)
    · exact hEnd (_, _)

theorem stays_blockFront (fuel : Nat) (pieces : List (List Char)) (width : Nat) :
    Stays source (blockFront fuel pieces width) := by
  induction fuel generalizing pieces width with
  | zero => exact keeps_done _
  | succ fuel ih =>
      unfold blockFront
      refine stays_peek.then fun c => Keeps.ite ?_ (Keeps.ite ?_ (keeps_done _))
      · exact (stays_skip _).then fun _ => stays_column.then fun _ => ih _ _
      · exact stays_takeBreak.then fun _ => ih _ _

theorem stays_skipIndent (indent fuel : Nat) : Stays source (skipIndent indent fuel) := by
  induction fuel with
  | zero => exact keeps_done _
  | succ fuel ih =>
      unfold skipIndent
      refine stays_column.then fun _ => Keeps.ite ?_ (keeps_done _)
      exact stays_peek.then fun c => Keeps.ite ((stays_skip _).then fun _ => ih) (keeps_done _)

theorem stays_blockBreaks (indent fuel : Nat) (pieces : List (List Char)) :
    Stays source (blockBreaks indent fuel pieces) := by
  induction fuel generalizing pieces with
  | zero => exact keeps_done _
  | succ fuel ih =>
      unfold blockBreaks
      refine (stays_skipIndent _ _).then fun _ => stays_peek.then fun c => Keeps.ite ?_ (keeps_done _)
      exact stays_takeBreak.then fun _ => ih _

theorem stays_atBlockLine (indent : Nat) : Stays source (atBlockLine indent) := by
  unfold atBlockLine
  exact stays_column.then fun _ => Keeps.ite (stays_peek.then fun _ => keeps_done _) (keeps_done _)

theorem stays_blockLines (fold : Bool) (indent fuel : Nat) (pieces : List (List Char)) (breaks : List Char) :
    Stays source (blockLines fold indent fuel pieces breaks) := by
  induction fuel generalizing pieces breaks with
  | zero => exact keeps_done _
  | succ fuel ih =>
      unfold blockLines
      refine stays_peek.then fun c => (stays_takeAll _).then fun line => stays_takeBreak.then fun lineBreak => ?_
      refine stays_bound.then fun _ => (stays_blockBreaks _ _ _).then fun breaks => ?_
      refine (stays_atBlockLine _).then fun _ => Keeps.ite ?_ (keeps_done _)
      exact stays_peek.then fun c => ih _ _

theorem stays_blockScalar (fold : Bool) (parent : Int) : Stays source (blockScalar fold parent) := by
  -- Both ways to find the indentation lead to the lines of the block, and from these to its text.
  have hLines : ∀ (indent : Nat) (front : List Char)
      (text : List (List Char) × List Char × List Char → Reading (List Char)), (∀ lines, Stays source (text lines)) →
      Stays source (do
        if ← atBlockLine indent then
          let lines ← blockLines fold indent (← bound) [] front
          text lines
        else
          let lines ← pure ([], [], front)
          text lines) := by
    intro indent front text hText
    refine (stays_atBlockLine _).then fun _ => Keeps.ite ?_ ((keeps_done _).then hText)
    exact stays_bound.then fun _ => (stays_blockLines _ _ _ _ _).then hText
  unfold blockScalar
  refine (stays_skip _).then fun _ => stays_blockIndicators.then fun ⟨chomping, increment⟩ => ?_
  refine stays_skipLineEnd.then fun _ => ?_
  dsimp only
  split
  · refine stays_bound.then fun _ => (stays_blockBreaks _ _ _).then fun front => (keeps_done _).then fun _ => ?_
    exact hLines _ _ _ fun lines => keeps_done _
  · refine stays_bound.then fun _ => (stays_blockFront _ _ _).then fun front => (keeps_done _).then fun _ => ?_
    exact hLines _ _ _ fun lines => keeps_done _

/-! ### Names and tags -/

theorem stays_takeSome (p : Char → Bool) : Stays source (takeSome p) := by
  unfold takeSome
  exact (stays_takeAll _).then fun _ => Keeps.ite stays_refuse (keeps_done _)

theorem stays_takeAnchor : Stays source takeAnchor := by
  unfold takeAnchor
  exact (stays_skip _).then fun _ => (stays_takeSome _).then fun _ => (stays_expect _).then fun _ => keeps_done _

theorem stays_takeHandle : Stays source takeHandle := by
  unfold takeHandle
  refine (stays_expect _).then fun _ => (stays_peekAt _).then fun c => Keeps.ite ?_ ?_
  · exact (stays_skip _).then fun _ => keeps_done _
  · refine keeps_get.then fun cursor => (stays_peekAt _).then fun c => Keeps.ite ?_ ?_
    · exact (stays_skip _).then fun _ => keeps_done _
    · exact (stays_skip _).then fun _ => stays_refuse

theorem stays_takeEscapes (fuel : Nat) (bytes : List UInt8) : Stays source (takeEscapes fuel bytes) := by
  induction fuel generalizing bytes with
  | zero => exact keeps_done _
  | succ fuel ih =>
      unfold takeEscapes
      refine stays_peek.then fun c => Keeps.ite ?_ (keeps_done _)
      exact (stays_skip _).then fun _ => (stays_hexNumber _ _ _).then fun _ => (stays_skip _).then fun _ => ih _

theorem stays_takeTagText (fuel : Nat) (pieces : List (List Char)) : Stays source (takeTagText fuel pieces) := by
  induction fuel generalizing pieces with
  | zero => exact keeps_done _
  | succ fuel ih =>
      unfold takeTagText
      refine (stays_takeAll _).then fun text => stays_peek.then fun c => Keeps.ite ?_ (keeps_done _)
      refine stays_bound.then fun _ => (stays_takeEscapes _ _).then fun bytes => ?_
      split
      · exact stays_refuse
      · exact ih _

theorem stays_takeUri : Stays source takeUri := by
  unfold takeUri
  refine stays_peek.then fun c => stays_bound.then fun _ => (stays_takeTagText _ _).then fun text => ?_
  exact Keeps.ite (keeps_done _) stays_refuse

theorem stays_hasHandle : Stays source hasHandle := by
  unfold hasHandle
  exact keeps_get.then fun _ => (stays_peekAt _).then fun _ => keeps_done _

theorem stays_takeTag : Stays source takeTag := by
  unfold takeTag
  have hEnd : ∀ tag : TagText, Stays source (do expect isSpaceOrEnd; return tag) :=
    fun _ => (stays_expect _).then fun _ => keeps_done _
  refine (stays_peekAt _).then fun c => ?_
  split
  next =>
      exact (stays_skip _).then fun _ => stays_takeUri.then fun _ => (stays_expect _).then fun _ =>
        (stays_skip _).then fun _ => hEnd _
  split
  next => exact (stays_skip _).then fun _ => hEnd _
  next =>
      refine stays_hasHandle.then fun _ => Keeps.ite ?_ ?_
      · exact stays_takeHandle.then fun _ => stays_takeUri.then fun _ => hEnd _
      · exact (stays_skip _).then fun _ => stays_takeUri.then fun _ => hEnd _

/-! ### Directives -/

/-- A number has a value unless it has too many digits. -/
theorem stays_takeNumber : Stays source takeNumber := by
  intro cursor hIn
  have hRun : takeNumber.run cursor = (do
      expect Binary64.isAsciiDigit
      ask ((cursor.rest.takeWhile Binary64.isAsciiDigit).length + 1)
      let n ← (readInteger 10 (cursor.rest.takeWhile Binary64.isAsciiDigit)).mapError Fault.value
      skip (cursor.rest.takeWhile Binary64.isAsciiDigit).length
      return n : Reading Int).run cursor := rfl
  rw [hRun]
  generalize hRow : cursor.rest.takeWhile Binary64.isAsciiDigit = digits
  have hDigits : ∀ c ∈ digits, Binary64.isAsciiDigit c = true := fun c hc =>
    List.mem_takeWhile_imp (hRow ▸ hc)
  rw [StateT.run_bind]
  refine (ends_expect hIn _).bind ?_
  rintro _ ⟨hFirst, rfl⟩
  have hSome : digits ≠ [] := by
    generalize hHead : cursor.rest.getD 0 endMark = c at hFirst
    obtain ⟨tail, hRest⟩ := rest_eq_cons hHead (by rintro rfl; cases hFirst)
    rw [← hRow, hRest, List.takeWhile_cons_of_pos hFirst]
    exact List.cons_ne_nil _ _
  have hNumber : Ends (fun _ => True) (Cause source) ((readInteger 10 digits).mapError Fault.value) := by
    refine ends_mapError fun fault hFault => ?_
    obtain ⟨cause, hCause, rfl⟩ := mapError_eq_error_iff.mp hFault
    obtain ⟨rfl, hLong⟩ := Text.readInteger_digits hDigits hSome hCause
    refine .number ?_ hDigits hLong
    exact ((hRow ▸ List.takeWhile_prefix _).isInfix).trans hIn.rest.isInfix
  have hStays : Stays source (do
      ask (digits.length + 1)
      let n ← liftM ((readInteger 10 digits).mapError Fault.value)
      skip digits.length
      return n) :=
    (stays_ask _).then fun _ => (keeps_lift hNumber).then fun n => (stays_skip _).then fun _ => keeps_done n
  exact hStays cursor hIn

theorem stays_takeDirective : Stays source takeDirective := by
  unfold takeDirective
  have hEnd : ∀ directive : Directive, Stays source (do skipLineEnd; return directive) :=
    fun _ => stays_skipLineEnd.then fun _ => keeps_done _
  refine (stays_skip _).then fun _ => (stays_takeSome _).then fun name => (stays_expect _).then fun _ => ?_
  split
  next =>
      exact stays_skipSpaces.then fun _ => stays_takeNumber.then fun _ => (stays_expect _).then fun _ =>
        (stays_skip _).then fun _ => stays_takeNumber.then fun _ => (stays_expect _).then fun _ => hEnd _
  split
  next =>
      exact stays_skipSpaces.then fun _ => stays_takeHandle.then fun _ => (stays_expect _).then fun _ =>
        stays_skipSpaces.then fun _ => stays_takeUri.then fun _ => (stays_expect _).then fun _ => hEnd _
  next => exact (stays_skipAll _).then fun _ => hEnd _

end Reading
end QueryPlayground.Yaml
