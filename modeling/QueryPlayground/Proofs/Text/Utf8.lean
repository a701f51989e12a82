import QueryPlayground.Text.Utf8

/-! Writing UTF-8, and reading it again. Each character takes one to four bytes, and from these alone it is read
back, whatever stands behind them; so every text is read back from its bytes. Where the bytes of a text are parted,
the first part is read as characters, or it breaks off within one. -/
namespace QueryPlayground.Text

/-- The bytes that encode a text. -/
def utf8Bytes (s : List Char) : List UInt8 := s.flatMap String.utf8EncodeChar

@[simp]
theorem utf8Bytes_cons (c : Char) (s : List Char) : utf8Bytes (c :: s) = String.utf8EncodeChar c ++ utf8Bytes s :=
  List.flatMap_cons

/-- The code of a character is in range and no surrogate. -/
theorem toNat_scalar (c : Char) : c.toNat < 0xd800 ∨ 0xe000 ≤ c.toNat ∧ c.toNat < 0x110000 := by
  have hValid := c.valid
  simp only [UInt32.isValidChar, Nat.isValidChar] at hValid
  change c.toNat < _ ∨ _ < c.toNat ∧ c.toNat < _ at hValid
  omega

theorem charOfCode_toNat (standIn : Nat → Char) (c : Char) : charOfCode standIn c.toNat = c := by
  have hCode := toNat_scalar c
  rw [charOfCode, if_neg (by omega), Char.ofNat_toNat]

theorem toNat_byte {n : Nat} (h : n < 256) : (UInt8.ofNat n).toNat = n := UInt8.toNat_ofNat_of_lt' h

variable {standIn? : Option (Nat → Char)} {place : Nat} {done : List Char} {b : UInt8} {rest : List UInt8}
  {count low high code final : Nat}

/-- A sequence whose bytes are all in their bounds is read as one character. -/
theorem readUtf8_cons (hFollowers : followers? standIn?.isSome b.toNat = some (count, low, high))
    (hCode : readFollowers count low high (leadBits count b.toNat) rest = .ok code) :
    readUtf8 standIn? place done (b :: rest) =
      readUtf8 standIn? (place + count + 1) (charOfCode (standIn?.getD Char.ofNat) code :: done) (rest.drop count) := by
  rw [readUtf8, hFollowers]
  simp only [hCode]

/-- A byte within its bounds adds its six bits to the code. -/
theorem readFollowers_cons (hLow : low ≤ b.toNat) (hHigh : b.toNat ≤ high)
    (h : readFollowers count 0x80 0xbf (code * 64 + b.toNat % 64) rest = .ok final) :
    readFollowers (count + 1) low high code (b :: rest) = .ok final := by
  rw [readFollowers, if_pos ⟨hLow, hHigh⟩]
  simp only [h]

/-- A byte behind the first one, by the six bits that it adds. -/
theorem readFollowers_follower {bits : Nat} (hBits : bits < 64) (hLow : low ≤ bits + 128) (hHigh : bits + 128 ≤ high)
    (h : readFollowers count 0x80 0xbf (code * 64 + bits) rest = .ok final) :
    readFollowers (count + 1) low high code (UInt8.ofNat (bits + 128) :: rest) = .ok final := by
  have hByte : (UInt8.ofNat (bits + 128)).toNat = bits + 128 := toNat_byte (by omega)
  have hRest : (bits + 128) % 64 = bits := by omega
  refine readFollowers_cons (by omega) (by omega) ?_
  rwa [hByte, hRest]

/-! ### The four lengths of a sequence -/

theorem readUtf8_one (hCode : code < 0x80) :
    readUtf8 standIn? place done (UInt8.ofNat code :: rest) =
      readUtf8 standIn? (place + 1) (charOfCode (standIn?.getD Char.ofNat) code :: done) rest := by
  have hByte : (UInt8.ofNat code).toNat = code := toNat_byte (by omega)
  have hFollowers : followers? standIn?.isSome code = some (0, 0x80, 0xbf) := if_pos hCode
  rw [readUtf8_cons (by rw [hByte, hFollowers]) rfl, hByte]
  rfl

theorem readUtf8_two {a x : Nat} (hLead : a < 32) (hFirst : x < 64) (hCode : 0x80 ≤ a * 64 + x) :
    readUtf8 standIn? place done (UInt8.ofNat (a + 192) :: UInt8.ofNat (x + 128) :: rest) =
      readUtf8 standIn? (place + 2) (charOfCode (standIn?.getD Char.ofNat) (a * 64 + x) :: done) rest := by
  have hByte : (UInt8.ofNat (a + 192)).toNat = a + 192 := toNat_byte (by omega)
  have hFollowers : followers? standIn?.isSome (a + 192) = some (1, 0x80, 0xbf) := by
    rw [followers?, if_neg (by omega), if_neg (by omega), if_pos (by omega)]
  have hBits : leadBits 1 (a + 192) = a := by
    simp [leadBits]
    omega
  have hRead : readFollowers 1 0x80 0xbf a (UInt8.ofNat (x + 128) :: rest) = .ok (a * 64 + x) :=
    readFollowers_follower hFirst (by omega) (by omega) rfl
  rw [readUtf8_cons (by rw [hByte, hFollowers]) (by rw [hByte, hBits, hRead])]
  rfl

/-- The second byte of three is bounded below if the first one has no bits, and above if it might begin a
surrogate. -/
theorem readUtf8_three {a x y : Nat} (hLead : a < 16) (hFirst : x < 64) (hSecond : y < 64)
    (hCode : 0x800 ≤ (a * 64 + x) * 64 + y)
    (hScalar : (a * 64 + x) * 64 + y < 0xd800 ∨ 0xe000 ≤ (a * 64 + x) * 64 + y) :
    readUtf8 standIn? place done
        (UInt8.ofNat (a + 224) :: UInt8.ofNat (x + 128) :: UInt8.ofNat (y + 128) :: rest) =
      readUtf8 standIn? (place + 3) (charOfCode (standIn?.getD Char.ofNat) ((a * 64 + x) * 64 + y) :: done) rest := by
  have hByte : (UInt8.ofNat (a + 224)).toNat = a + 224 := toNat_byte (by omega)
  have hFollowers : ∃ low high, followers? standIn?.isSome (a + 224) = some (2, low, high) ∧
      low ≤ x + 128 ∧ x + 128 ≤ high := by
    rw [followers?, if_neg (by omega), if_neg (by omega), if_neg (by omega)]
    split
    next => exact ⟨_, _, rfl, by omega, by omega⟩
    next =>
        split
        next => exact ⟨_, _, rfl, by omega, by split <;> omega⟩
        next =>
            rw [if_pos (by omega)]
            exact ⟨_, _, rfl, by omega, by omega⟩
  obtain ⟨low, high, hFollowers, hLow, hHigh⟩ := hFollowers
  have hBits : leadBits 2 (a + 224) = a := by
    simp [leadBits]
    omega
  have hRead : readFollowers 2 low high a (UInt8.ofNat (x + 128) :: UInt8.ofNat (y + 128) :: rest) =
      .ok ((a * 64 + x) * 64 + y) :=
    readFollowers_follower hFirst hLow hHigh (readFollowers_follower hSecond (by omega) (by omega) rfl)
  rw [readUtf8_cons (by rw [hByte, hFollowers]) (by rw [hByte, hBits, hRead])]
  rfl

/-- The second byte of four is bounded on both sides, so that the code is neither too small nor too large. -/
theorem readUtf8_four {a x y z : Nat} (hLead : a < 8) (hFirst : x < 64) (hSecond : y < 64) (hThird : z < 64)
    (hCode : 0x10000 ≤ ((a * 64 + x) * 64 + y) * 64 + z) (hRange : ((a * 64 + x) * 64 + y) * 64 + z < 0x110000) :
    readUtf8 standIn? place done (UInt8.ofNat (a + 240) :: UInt8.ofNat (x + 128) :: UInt8.ofNat (y + 128) ::
        UInt8.ofNat (z + 128) :: rest) =
      readUtf8 standIn? (place + 4)
        (charOfCode (standIn?.getD Char.ofNat) (((a * 64 + x) * 64 + y) * 64 + z) :: done) rest := by
  have hByte : (UInt8.ofNat (a + 240)).toNat = a + 240 := toNat_byte (by omega)
  have hFollowers : ∃ low high, followers? standIn?.isSome (a + 240) = some (3, low, high) ∧
      low ≤ x + 128 ∧ x + 128 ≤ high := by
    rw [followers?, if_neg (by omega), if_neg (by omega), if_neg (by omega), if_neg (by omega), if_neg (by omega),
      if_neg (by omega)]
    split
    next => exact ⟨_, _, rfl, by omega, by omega⟩
    next =>
        split
        next => exact ⟨_, _, rfl, by omega, by omega⟩
        next =>
            rw [if_pos (by omega)]
            exact ⟨_, _, rfl, by omega, by omega⟩
  obtain ⟨low, high, hFollowers, hLow, hHigh⟩ := hFollowers
  have hBits : leadBits 3 (a + 240) = a := by
    simp [leadBits]
    omega
  have hRead : readFollowers 3 low high a
      (UInt8.ofNat (x + 128) :: UInt8.ofNat (y + 128) :: UInt8.ofNat (z + 128) :: rest) =
        .ok (((a * 64 + x) * 64 + y) * 64 + z) :=
    readFollowers_follower hFirst hLow hHigh
      (readFollowers_follower hSecond (by omega) (by omega) (readFollowers_follower hThird (by omega) (by omega) rfl))
  rw [readUtf8_cons (by rw [hByte, hFollowers]) (by rw [hByte, hBits, hRead])]
  rfl

/-! ### Characters and texts -/

/-- The bytes of a character are read as this character. -/
theorem readUtf8_char (c : Char) :
    readUtf8 standIn? place done (String.utf8EncodeChar c ++ rest) =
      readUtf8 standIn? (place + c.utf8Size) (c :: done) rest := by
  have hScalar := toNat_scalar c
  have hChar := charOfCode_toNat (standIn?.getD Char.ofNat) c
  have hValue : c.val.toNat = c.toNat := rfl
  rw [← String.length_utf8EncodeChar, String.utf8EncodeChar, hValue]
  clear hValue
  generalize c.toNat = code at hScalar hChar ⊢
  subst hChar
  split
  next hOne => exact readUtf8_one (by omega)
  split
  next hOne hTwo =>
      have hCode : code / 64 % 32 * 64 + code % 64 = code := by omega
      refine (readUtf8_two (by omega) (by omega) (by omega)).trans ?_
      rw [hCode]
      rfl
  split
  next hOne hTwo hThree =>
      have hCode : (code / 4096 % 16 * 64 + code / 64 % 64) * 64 + code % 64 = code := by omega
      refine (readUtf8_three (by omega) (by omega) (by omega) (by omega) (by omega)).trans ?_
      rw [hCode]
      rfl
  next hOne hTwo hThree =>
      have hCode : ((code / 262144 % 8 * 64 + code / 4096 % 64) * 64 + code / 64 % 64) * 64 + code % 64 = code := by
        omega
      refine (readUtf8_four (by omega) (by omega) (by omega) (by omega) (by omega) (by omega)).trans ?_
      rw [hCode]
      rfl

/-- A text is read back from its bytes, character by character. -/
theorem readUtf8_utf8Bytes (standIn? : Option (Nat → Char)) (place : Nat) (done s : List Char) :
    readUtf8 standIn? place done (utf8Bytes s) = .ok (done.reverse ++ s) := by
  induction s generalizing place done with
  | nil => rw [utf8Bytes, List.flatMap_nil, readUtf8, List.append_nil]
  | cons c s ih => rw [utf8Bytes_cons, readUtf8_char, ih, List.reverse_cons, List.append_assoc, List.singleton_append]

/-! ### Parts of a text's bytes -/

/-- Bytes that encode a text. -/
def IsUtf8 (bytes : List UInt8) : Prop := ∃ s, utf8Bytes s = bytes

section Parts

variable {front back : List UInt8} {s : List Char}

/-- The first bytes of a sequence that is read are read alike, or there are too few of them. -/
theorem readFollowers_of_append (h : readFollowers count low high code (front ++ back) = .ok final) :
    if count ≤ front.length then readFollowers count low high code front = .ok final
    else readFollowers count low high code front = .error (front.length, .endOfData) := by
  induction front generalizing count low high code with
  | nil =>
      cases count with
      | zero => exact h
      | succ count => rfl
  | cons b front ih =>
      cases count with
      | zero => exact h
      | succ count =>
          rw [List.cons_append, readFollowers] at h
          split at h
          next hBounds =>
              split at h
              next read hRead =>
                  cases h
                  have hFront := ih hRead
                  simp only [List.length_cons, Nat.add_le_add_iff_right, readFollowers, if_pos hBounds]
                  split at hFront
                  next hEnough => rw [if_pos hEnough, hFront]
                  next hFew => rw [if_neg hFew, hFront]
              next => cases h
          next => cases h

/-- Bytes in front of others with which they are read: they are read as the first characters, or they break off
within a character, and then the bytes in front of this one are. -/
theorem readUtf8_of_append (h : readUtf8 none place done (front ++ back) = .ok s) :
    (∃ chars next, readUtf8 none place done front = .ok chars ∧ readUtf8 none next chars.reverse back = .ok s) ∨
      ∃ n size byte chars next, readUtf8 none place done front = .error ⟨place + n, size, byte, .endOfData⟩ ∧
        readUtf8 none place done (front.take n) = .ok chars ∧
        readUtf8 none next chars.reverse (front.drop n ++ back) = .ok s := by
  induction hLength : front.length using Nat.strongRecOn generalizing front place done with
  | ind length ih =>
  cases front with
  | nil => exact .inl ⟨done.reverse, place, by rw [readUtf8], by rwa [List.reverse_reverse]⟩
  | cons b front =>
      have hWhole := h
      rw [List.cons_append, readUtf8] at h
      split at h
      next => cases h
      next count low high hFollowers =>
          split at h
          next => cases h
          next code hCode =>
              have hFront := readFollowers_of_append hCode
              split at hFront
              next hEnough =>
                  rw [List.drop_append_of_le_length hEnough] at h
                  have hShort : (front.drop count).length < length := by
                    rw [← hLength, List.length_drop, List.length_cons]
                    omega
                  rcases ih _ hShort h rfl with
                    ⟨chars, next, hChars, hNext⟩ | ⟨n, size, byte, chars, next, hFault, hTake, hNext⟩
                  · exact .inl ⟨chars, next, (readUtf8_cons hFollowers hFront).trans hChars, hNext⟩
                  · have hTaken : readFollowers count low high (leadBits count b.toNat) (front.take (n + count)) =
                        .ok code := by
                      rw [← List.take_append_drop (n + count) front] at hFront
                      have hEnds := readFollowers_of_append hFront
                      rwa [if_pos (by rw [List.length_take]; omega)] at hEnds
                    refine .inr ⟨n + count + 1, size, byte, chars, next, ?_, ?_, ?_⟩
                    · have hPlace : place + (n + count + 1) = place + count + 1 + n := by omega
                      rw [readUtf8_cons hFollowers hFront, hPlace]
                      exact hFault
                    · rw [List.take_succ_cons, readUtf8_cons hFollowers hTaken, List.drop_take, Nat.add_sub_cancel]
                      exact hTake
                    · rwa [List.drop_succ_cons, Nat.add_comm, ← List.drop_drop]
              next hFew =>
                  refine .inr ⟨0, front.length + 1, b, done.reverse, place, ?_, ?_, ?_⟩
                  · rw [readUtf8, hFollowers]
                    simp only [hFront, Nat.add_zero]
                  · rw [List.take_zero, readUtf8]
                  · rw [List.reverse_reverse, List.drop_zero]
                    exact hWhole

/-- Whether bytes are read does not depend on what was read before. -/
theorem readUtf8_anywhere (h : readUtf8 none place done rest = .ok s) (place' : Nat)
    (done' : List Char) : ∃ s', readUtf8 none place' done' rest = .ok s' := by
  induction hLength : rest.length using Nat.strongRecOn generalizing rest place done place' done' with
  | ind length ih =>
  cases rest with
  | nil => exact ⟨_, by rw [readUtf8]⟩
  | cons b rest =>
      rw [readUtf8] at h
      split at h
      next => cases h
      next count low high hFollowers =>
          split at h
          next => cases h
          next code hCode =>
              have hShort : (rest.drop count).length < length := by
                rw [← hLength, List.length_drop, List.length_cons]
                omega
              obtain ⟨s', hRest⟩ := ih _ hShort h (place' + count + 1)
                (charOfCode Char.ofNat code :: done') rfl
              exact ⟨s', (readUtf8_cons hFollowers hCode).trans hRest⟩

end Parts

end QueryPlayground.Text
