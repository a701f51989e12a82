import Mathlib.Data.List.TakeWhile
import QueryPlayground.Text.Blank

/-! Trimming. What is left of a text is a part of it, between blanks that were taken off and nothing else; it
neither begins nor ends with a blank of its own. The same holds of one character that is dropped from the end. -/
namespace QueryPlayground.Text

variable {p : Char → Bool}

/-- A text, and what is left of it once all the characters of a class are taken off its ends. -/
structure TrimsTo (p : Char → Bool) (whole core : List Char) : Prop where
  parts : ∃ front back, whole = front ++ core ++ back ∧ (∀ c ∈ front, p c = true) ∧ ∀ c ∈ back, p c = true
  head : ∀ c ∈ core.head?, p c = false
  last : ∀ c ∈ core.getLast?, p c = false

theorem head?_dropWhile {s : List Char} : ∀ c ∈ (s.dropWhile p).head?, p c = false := by
  intro c hc
  have hHead := List.head?_dropWhile_not p s
  rwa [hc] at hHead

/-- What was taken off either end is what the class goes over there. -/
theorem trimBy_parts (p : Char → Bool) (s : List Char) :
    s = s.takeWhile p ++ trimBy p s ++ ((s.dropWhile p).reverse.takeWhile p).reverse := by
  have hBack : trimBy p s ++ ((s.dropWhile p).reverse.takeWhile p).reverse = s.dropWhile p := by
    rw [trimBy, ← List.reverse_append, List.takeWhile_append_dropWhile, List.reverse_reverse]
  rw [List.append_assoc, hBack, List.takeWhile_append_dropWhile]

theorem trimBy_trims (p : Char → Bool) (s : List Char) : TrimsTo p s (trimBy p s) where
  parts := by
    refine ⟨_, _, trimBy_parts p s, fun c hc => List.mem_takeWhile_imp hc, fun c hc => ?_⟩
    exact List.mem_takeWhile_imp (List.mem_reverse.mp hc)
  head := by
    intro c hc
    -- What the front begins with stays in place when the back is taken off.
    have hPrefix : trimBy p s <+: s.dropWhile p := by
      have hSuffix := List.reverse_prefix.mpr (List.dropWhile_suffix p (l := (s.dropWhile p).reverse))
      rwa [List.reverse_reverse] at hSuffix
    obtain ⟨back, hBack⟩ := hPrefix
    refine head?_dropWhile (s := s) c ?_
    rw [← hBack, List.head?_append, Option.mem_def.mp hc]
    rfl
  last := by
    intro c hc
    rw [trimBy, List.getLast?_reverse] at hc
    exact head?_dropWhile c hc

theorem dropWhile_of_head? {s : List Char} (h : ∀ c ∈ s.head?, p c = false) : s.dropWhile p = s := by
  cases s with
  | nil => rfl
  | cons c s => exact List.dropWhile_cons_of_neg (by rw [h c rfl]; decide)

/-- Nothing else is left of a text. -/
theorem TrimsTo.trimBy_eq {whole core : List Char} (h : TrimsTo p whole core) : trimBy p whole = core := by
  obtain ⟨front, back, rfl, hFront, hBack⟩ := h.parts
  have hBack' : ∀ c ∈ back.reverse, p c = true := fun c hc => hBack c (List.mem_reverse.mp hc)
  have hLast : ∀ c ∈ core.reverse.head?, p c = false := List.head?_reverse ▸ h.last
  rw [trimBy, List.append_assoc, List.dropWhile_append_of_pos hFront]
  cases core with
  | nil => rw [List.nil_append, List.dropWhile_eq_nil_iff.mpr hBack]; rfl
  | cons c core =>
      have hHead : (c :: core ++ back).dropWhile p = c :: core ++ back := dropWhile_of_head? h.head
      rw [hHead, List.reverse_append, List.dropWhile_append_of_pos hBack', dropWhile_of_head? hLast,
        List.reverse_reverse]

/-- Of a text just the white space around it is trimmed. -/
theorem trim_trims (s : String) : TrimsTo isBlank s.toList (trim s).toList := by
  rw [trim, String.toList_ofList]
  exact trimBy_trims isBlank s.toList

theorem trim_eq_of_trims {s : String} {core : List Char} (h : TrimsTo isBlank s.toList core) :
    trim s = String.ofList core := by
  rw [trim, trimChars, h.trimBy_eq]

theorem trim_trim (s : String) : trim (trim s) = trim s := by
  have hTrims := trim_trims s
  have hAgain : TrimsTo isBlank (trim s).toList (trim s).toList :=
    ⟨⟨[], [], by rw [List.nil_append, List.append_nil], nofun, nofun⟩, hTrims.head, hTrims.last⟩
  rw [trim_eq_of_trims hAgain, String.ofList_toList]

/-- What is left of a text does not end with the character that is dropped. -/
theorem getLast?_dropTrailing (c : Char) (s : String) : (dropTrailing c s).toList.getLast? ≠ some c := by
  rw [dropTrailing, String.toList_ofList, List.getLast?_reverse]
  intro h
  have hHead := head?_dropWhile (p := (· == c)) c h
  simp at hHead

theorem dropTrailing_of_getLast? {c : Char} {s : String} (h : s.toList.getLast? ≠ some c) :
    dropTrailing c s = s := by
  have hHead : ∀ d ∈ s.toList.reverse.head?, (d == c) = false := by
    rw [List.head?_reverse]
    intro d hd
    refine beq_eq_false_iff_ne.mpr ?_
    rintro rfl
    exact h hd
  rw [dropTrailing, dropWhile_of_head? hHead, List.reverse_reverse, String.ofList_toList]

theorem dropTrailing_append_replicate (c : Char) (s : String) (n : Nat) :
    dropTrailing c (s ++ String.ofList (List.replicate n c)) = dropTrailing c s := by
  have hDropped : ∀ d ∈ List.replicate n c, (d == c) = true := by
    intro d hd
    rw [List.eq_of_mem_replicate hd, beq_self_eq_true]
  rw [dropTrailing, String.toList_append, String.toList_ofList, List.reverse_append, List.reverse_replicate,
    List.dropWhile_append_of_pos hDropped, dropTrailing]

/-- What was dropped are copies of the one character. -/
theorem exists_eq_dropTrailing_append (c : Char) (s : String) :
    ∃ n, s = dropTrailing c s ++ String.ofList (List.replicate n c) := by
  let back := s.toList.reverse.takeWhile (· == c)
  have hBack : back = List.replicate back.length c :=
    List.eq_replicate_iff.mpr ⟨rfl, fun d hd => beq_iff_eq.mp (List.mem_takeWhile_imp (p := (· == c)) hd)⟩
  have hParts : s.toList = (s.toList.reverse.dropWhile (· == c)).reverse ++ back.reverse := by
    rw [← List.reverse_append, List.takeWhile_append_dropWhile, List.reverse_reverse]
  refine ⟨back.length, ?_⟩
  rw [← String.toList_inj, String.toList_append, dropTrailing, String.toList_ofList, String.toList_ofList,
    ← List.reverse_replicate, ← hBack]
  exact hParts

/-- A text is what is left of another one just if that has copies of the character behind it and nothing else,
and it does not end with one itself. -/
theorem dropTrailing_eq_iff {c : Char} {s core : String} :
    dropTrailing c s = core ↔
      (∃ n, s = core ++ String.ofList (List.replicate n c)) ∧ core.toList.getLast? ≠ some c := by
  constructor
  · rintro rfl
    exact ⟨exists_eq_dropTrailing_append c s, getLast?_dropTrailing c s⟩
  · rintro ⟨⟨n, rfl⟩, hLast⟩
    rw [dropTrailing_append_replicate, dropTrailing_of_getLast? hLast]

end QueryPlayground.Text
