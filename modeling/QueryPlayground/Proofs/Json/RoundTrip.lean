import QueryPlayground.Proofs.Json.Numeral
import QueryPlayground.Proofs.Json.StringText

/-! Reading after writing. In every style whose layout consists of blanks, a value without doubles is
read back from its text, however deep it is nested and whatever may follow it. The reader's fuel is
counted against the length of the text. -/
namespace QueryPlayground.Json

variable {standIn : Nat → Char}

/-- A style whose layout is made of blanks, over which the reader passes. -/
structure Style.IsReadable (style : Style) : Prop where
  gap : ∀ c ∈ style.gap, isGap c = true
  colon : ∃ gap, style.colon = ':' :: gap ∧ ∀ c ∈ gap, isGap c = true

theorem Style.compact_isReadable : Style.compact.IsReadable :=
  ⟨List.forall_mem_nil _, [], rfl, List.forall_mem_nil _⟩

theorem Style.spaced_isReadable : Style.spaced.IsReadable :=
  ⟨List.forall_mem_singleton.mpr rfl, [' '], rfl, List.forall_mem_singleton.mpr rfl⟩

theorem Style.indented_isReadable : Style.indented.IsReadable :=
  ⟨List.forall_mem_nil _, [' '], rfl, List.forall_mem_singleton.mpr rfl⟩

/-- Values that a text holds without loss: no doubles, integers with a decimal text, and no name twice
in one object. -/
inductive Storable : Json → Prop where
  | null : Storable .null
  | bool (b : Bool) : Storable (.bool b)
  | int {n : Int} (writable : Text.isWritable n = true) : Storable (.int n)
  | str (s : String) : Storable (.str s)
  | arr {items : List Json} (each : ∀ item ∈ items, Storable item) : Storable (.arr items)
  | obj {members : List (String × Json)} (names : (members.map Prod.fst).Nodup)
      (each : ∀ member ∈ members, Storable member.2) : Storable (.obj members)

theorem isBreak_of_isGap {c : Char} (h : isGap c = true) : isBreak c = true := by
  simp [isBreak, h]

theorem breaks_append {gap rest : List Char} (hGap : ∀ c ∈ gap, isGap c = true) (hRest : Breaks rest) :
    Breaks (gap ++ rest) := by
  cases gap with
  | nil => exact hRest
  | cons c gap => exact breaks_cons _ (isBreak_of_isGap (hGap c (by simp)))

/-- Blanks are passed over up to the first character that is none. -/
theorem skipGaps_append {gap : List Char} (hGap : ∀ c ∈ gap, isGap c = true) {c : Char}
    (hStop : isGap c = false) (s : List Char) : skipGaps (gap ++ c :: s) = c :: s := by
  rw [skipGaps, List.dropWhile_append_of_pos hGap]
  simp [hStop]

theorem skipGaps_cons {c : Char} (hStop : isGap c = false) (s : List Char) : skipGaps (c :: s) = c :: s := by
  simp [skipGaps, hStop]

theorem Style.isGap_lead (style : Style) (depth : Nat) : ∀ c ∈ style.lead depth, isGap c = true := by
  intro c hc
  unfold Style.lead at hc
  split at hc
  · cases hc
  · simp only [List.mem_cons, List.mem_replicate] at hc
    rcases hc with rfl | ⟨_, rfl⟩ <;> decide

theorem Style.IsReadable.isGap_afterComma {style : Style} (hStyle : style.IsReadable) (depth : Nat) :
    ∀ c ∈ style.afterComma depth, isGap c = true := by
  unfold Style.afterComma
  split
  · exact hStyle.gap
  · exact style.isGap_lead depth

theorem writeInt_head (n : Int) :
    ∃ c s, writeInt n = c :: s ∧ (c = '-' ∨ Binary64.isAsciiDigit c = true) := by
  unfold writeInt Binary64.signText
  split
  · exact ⟨'-', _, rfl, Or.inl rfl⟩
  · obtain ⟨c, s, hDigits⟩ := List.exists_cons_of_ne_nil (Nat.toDigits_ne_nil (n := n.natAbs) (b := 10))
    exact ⟨c, s, hDigits, Or.inr (isAsciiDigit_of_mem_toDigits (hDigits ▸ List.mem_cons_self))⟩

theorem isBreak_eq_false_of_digit {c : Char} (h : c = '-' ∨ Binary64.isAsciiDigit c = true) :
    isBreak c = false := by
  rcases h with rfl | hDigit
  · decide
  · cases hBreak : isBreak c with
    | false => rfl
    | true =>
        rw [isAsciiDigit_eq_false_of_isBreak hBreak] at hDigit
        exact absurd hDigit Bool.false_ne_true

/-- A written value starts with a character of its own, never with one that ends a value. -/
theorem Storable.writeAt_head {v : Json} (hv : v.Storable) (style : Style) (depth : Nat) :
    ∃ c s, writeAt style depth v = c :: s ∧ isBreak c = false := by
  cases hv with
  | null => exact ⟨'n', _, rfl, rfl⟩
  | bool b => cases b <;> exact ⟨_, _, rfl, rfl⟩
  | @int n hn =>
      obtain ⟨c, s, hText, hc⟩ := writeInt_head n
      exact ⟨c, s, hText, isBreak_eq_false_of_digit hc⟩
  | str s => exact ⟨'"', _, rfl, rfl⟩
  | @arr items each => cases items <;> exact ⟨'[', _, rfl, rfl⟩
  | @obj members names each => cases members <;> exact ⟨'\x7b', _, rfl, rfl⟩

theorem Storable.exists_fuel {v : Json} (hv : v.Storable) {style : Style} {depth fuel : Nat}
    (hFuel : (writeAt style depth v).length ≤ fuel) : ∃ rest, fuel = rest + 1 := by
  obtain ⟨c, s, hHead, _⟩ := hv.writeAt_head style depth
  rw [hHead, List.length_cons] at hFuel
  exact Nat.exists_eq_add_one_of_ne_zero (by omega)

theorem isGap_eq_false_of_isBreak {c : Char} (h : isBreak c = false) : isGap c = false := by
  simp only [isBreak, Bool.or_eq_false_iff] at h
  exact h.2

/-- No written text starts with a byte order mark: the reader of single values refuses the mark. -/
theorem readValue_mark (standIn : Nat → Char) (fuel : Nat) (s : List Char) :
    ∃ stop, readValue standIn fuel ('\ufeff' :: s) = .error stop := by
  cases fuel with
  | zero => exact ⟨_, readValue.eq_1 _ _⟩
  | succ fuel =>
      refine ⟨.malformed .expectedValue (s.length + 1), ?_⟩
      simp [readValue, readNumber, Binary64.isAsciiDigit]

/-- The reader gives a value back, at every depth and before everything that may follow it, as soon as
there is fuel for each of its characters. -/
def ReadsBack (standIn : Nat → Char) (style : Style) (v : Json) : Prop :=
  ∀ depth fuel rest, (writeAt style depth v).length ≤ fuel → Breaks rest →
    readValue standIn fuel (writeAt style depth v ++ rest) = .ok (v, rest)

/-- A sign and a digit are none of the beginnings that the reader tries before it reads a number. -/
theorem readValue_numeral (fuel : Nat) (negative : Bool) {d : Char} (hDigit : Binary64.isAsciiDigit d = true)
    (s : List Char) : readValue standIn (fuel + 1) (Binary64.signText negative ++ d :: s) =
      readNumber (Binary64.signText negative ++ d :: s) := by
  have hOther : ∀ c, Binary64.isAsciiDigit c = false → d ≠ c := by
    rintro c hc rfl
    rw [hDigit] at hc
    exact Bool.noConfusion hc
  unfold Binary64.signText
  split
  · apply readValue.eq_11 <;> intro rest' hText <;>
      simp only [List.cons_append, List.nil_append, List.cons.injEq] at hText
    all_goals first
      | exact absurd hText.1 (by decide)
      | exact absurd hText.2.1 (hOther _ (by decide))
  · apply readValue.eq_11 <;> intro rest' hText <;>
      simp only [List.nil_append, List.cons.injEq] at hText
    all_goals exact absurd hText.1 (hOther _ (by decide))

theorem readValue_int {n : Int} {fuel : Nat} {rest : List Char} (hn : Text.isWritable n = true)
    (hRest : Breaks rest) : readValue standIn (fuel + 1) (writeInt n ++ rest) = .ok (.int n, rest) := by
  rw [← readNumber_writeInt hn hRest, writeInt]
  obtain ⟨d, digits, hDigits⟩ := List.exists_cons_of_ne_nil (Nat.toDigits_ne_nil (n := n.natAbs) (b := 10))
  have hd : Binary64.isAsciiDigit d = true :=
    isAsciiDigit_of_mem_toDigits (hDigits ▸ List.mem_cons_self)
  rw [hDigits, List.append_assoc]
  exact readValue_numeral fuel _ hd _

variable {style : Style}

/-- The items of an array are read one by one. The induction is on the items that are still to come;
those that have been read are in hand, the last one first. -/
theorem readItems_writeItems (hStyle : style.IsReadable) (depth : Nat) {close : List Char}
    (hClose : ∀ c ∈ close, isGap c = true) (rest : List Char) (item : Json) (items : List Json)
    (hStorable : ∀ v ∈ item :: items, v.Storable) (hReads : ∀ v ∈ item :: items, ReadsBack standIn style v)
    (done : List Json) (fuel : Nat)
    (hFuel : (writeAt style depth item).length + (writeItems style depth items).length < fuel) :
    readItems standIn fuel done
        (writeAt style depth item ++ (writeItems style depth items ++ (close ++ ']' :: rest))) =
      .ok (done.reverse ++ item :: items, rest) := by
  induction items generalizing item done fuel with
  | nil =>
      obtain ⟨fuel, rfl⟩ := Nat.exists_eq_add_one_of_ne_zero (by omega : fuel ≠ 0)
      have hBreaks : Breaks (close ++ ']' :: rest) := breaks_append hClose (breaks_cons rest rfl)
      simp only [writeItems, List.nil_append, List.length_nil] at hFuel ⊢
      rw [readItems.eq_2, hReads item (by simp) depth fuel _ (by omega) hBreaks]
      simp [skipGaps_append hClose (c := ']') rfl]
  | cons next items ih =>
      obtain ⟨fuel, rfl⟩ := Nat.exists_eq_add_one_of_ne_zero (by omega : fuel ≠ 0)
      obtain ⟨c, s, hHead, hc⟩ := (hStorable next (by simp)).writeAt_head style depth
      simp only [writeItems, List.length_cons, List.length_append] at hFuel
      simp only [writeItems, List.cons_append, List.append_assoc]
      rw [readItems.eq_2, hReads item (by simp) depth fuel _ (by omega) (breaks_cons _ rfl)]
      have hTail := ih next (fun v hv => hStorable v (List.mem_cons_of_mem _ hv))
        (fun v hv => hReads v (List.mem_cons_of_mem _ hv)) (item :: done) fuel (by omega)
      rw [hHead, List.cons_append] at hTail ⊢
      simp only [skipGaps_cons (show isGap ',' = false from rfl)]
      rw [skipGaps_append (hStyle.isGap_afterComma depth) (isGap_eq_false_of_isBreak hc), hTail]
      simp

theorem setMember_of_notMem {name : String} (value : Json) {members : List (String × Json)}
    (h : name ∉ members.map Prod.fst) : setMember name value members = members ++ [(name, value)] := by
  induction members with
  | nil => rfl
  | cons member members ih =>
      obtain ⟨n, v⟩ := member
      simp only [List.map_cons, List.mem_cons, not_or] at h
      rw [setMember, if_neg (Ne.symm h.1), ih h.2, List.cons_append]

/-- A name and its value are read as one member; then the object ends, or another member follows. -/
theorem readMembers_member (hStyle : style.IsReadable) (depth : Nat) (name : String) {value : Json}
    (hStorable : value.Storable) (hReads : ReadsBack standIn style value) (done : List (String × Json))
    (fuel : Nat) (hFuel : (writeAt style depth value).length ≤ fuel) {rest : List Char}
    (hRest : Breaks rest) :
    (∀ after, skipGaps rest = '\x7d' :: after →
      readMembers standIn (fuel + 1) done (writeString style.asciiOnly name ++
          (style.colon ++ (writeAt style depth value ++ rest))) =
        .ok (setMember name value done, after)) ∧
    (∀ after, skipGaps rest = ',' :: after →
      readMembers standIn (fuel + 1) done (writeString style.asciiOnly name ++
          (style.colon ++ (writeAt style depth value ++ rest))) =
        readMembers standIn fuel (setMember name value done) (skipGaps after)) := by
  obtain ⟨gap, hColon, hGap⟩ := hStyle.colon
  obtain ⟨c, s, hHead, hc⟩ := hStorable.writeAt_head style depth
  have hValue := hReads depth fuel rest hFuel hRest
  rw [hHead, List.cons_append] at hValue ⊢
  simp only [writeString, hColon, List.cons_append, List.append_assoc, List.nil_append]
  rw [readMembers.eq_2, readString_writeString]
  simp only [skipGaps_cons (show isGap ':' = false from rfl)]
  rw [skipGaps_append hGap (isGap_eq_false_of_isBreak hc)]
  constructor
  · intro after hEnd
    simp only [hValue, hEnd]
  · intro after hNext
    simp only [hValue, hNext]

/-- The members of an object are read one by one. Names that differ from those in hand are added behind
them, so that the order is kept. -/
theorem readMembers_writeMembers (hStyle : style.IsReadable) (depth : Nat) {close : List Char}
    (hClose : ∀ c ∈ close, isGap c = true) (rest : List Char) (name : String) (value : Json)
    (members : List (String × Json)) (hStorable : ∀ member ∈ (name, value) :: members, member.2.Storable)
    (hReads : ∀ member ∈ (name, value) :: members, ReadsBack standIn style member.2)
    (done : List (String × Json)) (hNames : ((done ++ (name, value) :: members).map Prod.fst).Nodup)
    (fuel : Nat)
    (hFuel : (writeAt style depth value).length + (writeMembers style depth members).length < fuel) :
    readMembers standIn fuel done (writeString style.asciiOnly name ++ (style.colon ++
        (writeAt style depth value ++ (writeMembers style depth members ++ (close ++ '\x7d' :: rest))))) =
      .ok (done ++ (name, value) :: members, rest) := by
  have hNew : name ∉ done.map Prod.fst := by
    intro hName
    rw [List.map_append, List.nodup_append] at hNames
    exact hNames.2.2 name hName name (by simp) rfl
  induction members generalizing name value done fuel with
  | nil =>
      obtain ⟨fuel, rfl⟩ := Nat.exists_eq_add_one_of_ne_zero (by omega : fuel ≠ 0)
      have hBreaks : Breaks (close ++ '\x7d' :: rest) := breaks_append hClose (breaks_cons rest rfl)
      simp only [writeMembers, List.nil_append, List.length_nil] at hFuel ⊢
      have hMember := readMembers_member hStyle depth name (hStorable (name, value) (by simp))
        (hReads (name, value) (by simp)) done fuel (by dsimp only; omega) hBreaks
      rw [hMember.1 rest (skipGaps_append hClose rfl rest), setMember_of_notMem value hNew]
  | cons next members ih =>
      obtain ⟨nextName, nextValue⟩ := next
      obtain ⟨fuel, rfl⟩ := Nat.exists_eq_add_one_of_ne_zero (by omega : fuel ≠ 0)
      simp only [writeMembers, List.length_cons, List.length_append] at hFuel
      simp only [writeMembers, List.cons_append, List.append_assoc]
      have hMember (tail : List Char) := readMembers_member hStyle depth name
        (hStorable (name, value) (by simp)) (hReads (name, value) (by simp)) done fuel
        (by dsimp only; omega) (breaks_cons (c := ',') tail rfl)
      rw [(hMember _).2 _ (skipGaps_cons rfl _), setMember_of_notMem value hNew]
      have hOrder : done ++ (name, value) :: (nextName, nextValue) :: members =
          (done ++ [(name, value)]) ++ (nextName, nextValue) :: members := by simp
      rw [hOrder] at hNames ⊢
      have hTail := ih nextName nextValue (fun m hm => hStorable m (List.mem_cons_of_mem _ hm))
        (fun m hm => hReads m (List.mem_cons_of_mem _ hm)) (done ++ [(name, value)]) hNames fuel (by omega)
        (by
          intro hName
          rw [List.map_append, List.nodup_append] at hNames
          exact hNames.2.2 nextName hName nextName (by simp) rfl)
      rw [writeString, List.cons_append,
        skipGaps_append (hStyle.isGap_afterComma depth) (c := '"') rfl, ← List.cons_append, ← writeString,
        hTail]

/-- Every storable value is read back. The induction is on the value; arrays and objects hand the
fuel that is left over by their brackets to what they hold. -/
theorem Storable.readsBack (hStyle : style.IsReadable) {v : Json} (hv : v.Storable) :
    ReadsBack standIn style v := by
  induction hv with
  | null =>
      intro depth fuel rest hFuel hRest
      obtain ⟨fuel, rfl⟩ := Storable.null.exists_fuel hFuel
      simp [writeAt, readValue.eq_5]
  | bool b =>
      intro depth fuel rest hFuel hRest
      obtain ⟨fuel, rfl⟩ := (Storable.bool b).exists_fuel hFuel
      cases b <;> simp [writeAt, readValue]
  | @int n hn =>
      intro depth fuel rest hFuel hRest
      obtain ⟨fuel, rfl⟩ := (Storable.int hn).exists_fuel hFuel
      exact readValue_int hn hRest
  | str s =>
      intro depth fuel rest hFuel hRest
      obtain ⟨fuel, rfl⟩ := (Storable.str s).exists_fuel hFuel
      simp only [writeAt, writeString, List.cons_append, List.append_assoc, List.nil_append]
      rw [readValue.eq_2, readString_writeString]
      rfl
  | @arr items each ih =>
      intro depth fuel rest hFuel hRest
      obtain ⟨fuel, rfl⟩ := (Storable.arr each).exists_fuel hFuel
      cases items with
      | nil =>
          simp [writeAt, readValue.eq_4, skipGaps, isGap]
      | cons item items =>
          obtain ⟨c, s, hHead, hc⟩ := (each item (by simp)).writeAt_head style (depth + 1)
          have hBracket : c ≠ ']' := by
            rintro rfl
            exact absurd hc (by decide)
          have hItems := readItems_writeItems hStyle (depth + 1) (style.isGap_lead depth) rest item items
            each ih [] fuel (by simp [writeAt] at hFuel; omega)
          simp only [writeAt, List.cons_append, List.append_assoc, List.nil_append]
          rw [hHead, List.cons_append] at hItems ⊢
          rw [readValue.eq_4, skipGaps_append (style.isGap_lead _) (isGap_eq_false_of_isBreak hc)]
          simp [hItems, hBracket, Except.map]
  | @obj members names each ih =>
      intro depth fuel rest hFuel hRest
      obtain ⟨fuel, rfl⟩ := (Storable.obj names each).exists_fuel hFuel
      cases members with
      | nil =>
          simp [writeAt, readValue.eq_3, skipGaps, isGap]
      | cons member members =>
          obtain ⟨name, value⟩ := member
          have hMembers := readMembers_writeMembers hStyle (depth + 1) (style.isGap_lead depth) rest name
            value members each ih [] names fuel (by simp [writeAt] at hFuel; omega)
          obtain ⟨mark, hName⟩ : ∃ s, writeString style.asciiOnly name = '"' :: s := ⟨_, rfl⟩
          simp only [writeAt, List.cons_append, List.append_assoc, List.nil_append]
          rw [hName, List.cons_append] at hMembers ⊢
          rw [readValue.eq_3, skipGaps_append (style.isGap_lead _) (c := '"') rfl]
          simp [hMembers, Except.map]

/-- A written text holds one value and nothing else, so the whole of it is read, whatever stands in for
surrogates. -/
theorem Storable.readChars_write (hStyle : style.IsReadable) {v : Json} (hv : v.Storable)
    (standIn : Nat → Char) : readChars standIn (write style v).toList = .ok v := by
  obtain ⟨c, s, hHead, hc⟩ := hv.writeAt_head style 0
  have hReads : ReadsBack standIn style v := hv.readsBack hStyle
  have hValue := hReads 0 (2 * (writeAt style 0 v).length + 2) [] (by omega) breaks_nil
  rw [List.append_nil, hHead] at hValue
  have hMark : c ≠ '\ufeff' := by
    rintro rfl
    obtain ⟨stop, hStop⟩ := readValue_mark standIn (2 * ('\ufeff' :: s).length + 2) s
    rw [hStop] at hValue
    cases hValue
  have hStart := skipGaps_cons (isGap_eq_false_of_isBreak hc) s
  rw [write, String.toList_ofList, hHead, readChars, List.head?_cons, if_neg (by simpa using hMark), hStart, hValue]
  rfl

theorem Storable.read_write (hStyle : style.IsReadable) {v : Json} (hv : v.Storable) :
    read (write style v) = .ok v := by
  rw [read, hv.readChars_write hStyle]
  rfl

end QueryPlayground.Json
