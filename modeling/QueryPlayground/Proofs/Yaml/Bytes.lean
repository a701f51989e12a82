import QueryPlayground.Proofs.Text.Utf8
import QueryPlayground.Yaml.Source

/-! The bytes of a settings file. They are decoded block by block, and a block may end within a character. Even so,
decoding comes upon a fault only where the bytes are no text. -/
namespace QueryPlayground.Yaml

open Text (IsUtf8 ofUtf8)

namespace Decoding

variable {decoding : Decoding} {rest : List UInt8}

theorem nextSize_pos (decoding : Decoding) : 0 < decoding.nextSize :=
  Nat.lt_of_lt_of_le (by decide : 0 < blockSize) (Nat.le_max_left _ _)

/-- What is left over by one block, and the blocks behind it, are read together; so no block holds a fault. -/
theorem run_eq_none {s : List Char} (h : ofUtf8 (decoding.left ++ rest) = .ok s) (fuel : Nat) :
    (run fuel decoding rest).2 = none := by
  induction fuel generalizing decoding rest s with
  | zero => rfl
  | succ fuel ih =>
      rw [run]
      dsimp only
      split
      next hBlock =>
          have hRest : rest = [] := by
            rcases List.take_eq_nil_iff.mp (List.isEmpty_iff.mp hBlock) with hSize | hRest
            · exact absurd hSize (Nat.pos_iff_ne_zero.mp decoding.nextSize_pos)
            · exact hRest
          subst hRest
          rw [List.take_nil, h]
      next =>
          generalize hBlock : rest.take decoding.nextSize = block
          have hWhole : decoding.left ++ rest = (decoding.left ++ block) ++ rest.drop block.length := by
            have hParts : block ++ rest.drop block.length = rest :=
              List.prefix_iff_eq_append.mp (hBlock ▸ List.take_prefix _ _)
            rw [List.append_assoc, hParts]
          rw [hWhole] at h
          rcases Text.readUtf8_of_append h with
            ⟨chars, next, hChars, hNext⟩ | ⟨n, size, byte, chars, next, hFault, hTake, hNext⟩
          · obtain ⟨s', hRest⟩ := Text.readUtf8_anywhere hNext 0 []
            have hBlockRead : ofUtf8 (decoding.left ++ block) = .ok chars := hChars
            rw [hBlockRead]
            exact ih hRest
          · obtain ⟨s', hRest⟩ := Text.readUtf8_anywhere hNext 0 []
            rw [Nat.zero_add] at hFault
            have hBlockRead : ofUtf8 (decoding.left ++ block) = .error ⟨n, size, byte, .endOfData⟩ := hFault
            have hBlockTake : ofUtf8 ((decoding.left ++ block).take n) = .ok chars := hTake
            rw [hBlockRead]
            dsimp only
            rw [hBlockTake]
            exact ih hRest

end Decoding

/-- A source breaks off at its bytes only where these are no text. -/
theorem Source.not_isUtf8_of_ending {bytes : List UInt8} {fault : Text.Utf8Fault}
    (h : (Source.ofBytes bytes).ending = some (.encoding fault)) : ¬IsUtf8 bytes := by
  rintro ⟨s, rfl⟩
  have hRead : ofUtf8 (Decoding.start.left ++ Text.utf8Bytes s) = .ok s := Text.readUtf8_utf8Bytes none 0 [] s
  have hNone := Decoding.run_eq_none hRead ((Text.utf8Bytes s).length + 1)
  unfold ofBytes at h
  dsimp only at h
  rw [hNone] at h
  unfold ofChars at h
  dsimp only at h
  split at h <;> cases h

end QueryPlayground.Yaml
