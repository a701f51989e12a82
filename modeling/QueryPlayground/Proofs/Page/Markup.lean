import Mathlib.Tactic.SplitIfs
import QueryPlayground.Page.Html

/-! What a fragment shows. Dropping the tags of a fragment and decoding its entities gives the text on
display. Escaped text passes through both: it holds no tag, and its entities decode to what it was. -/
namespace QueryPlayground.Html

/-- A fragment without its tags, which reach from an opening angle bracket to the next closing one. A
bracket that is never closed opens no tag. -/
def withoutTags : Html → List Char
  | [] => []
  | c :: rest =>
    if c = '<' then
      match rest.dropWhile (· != '>') with
      | [] => c :: withoutTags rest
      | _ :: _ => withoutTags ((rest.dropWhile (· != '>')).drop 1)
    else c :: withoutTags rest
termination_by html => html.length
decreasing_by
  · simp
  · have hLength := (List.dropWhile_suffix (l := rest) (fun c => c != '>')).length_le
    simp only [List.length_drop, List.length_cons]
    omega
  · simp

/-- Decodes the five entities that stand for the characters of markup; one pass, from left to right. -/
def decodeEntities : List Char → List Char
  | '&' :: 'a' :: 'm' :: 'p' :: ';' :: rest => '&' :: decodeEntities rest
  | '&' :: 'l' :: 't' :: ';' :: rest => '<' :: decodeEntities rest
  | '&' :: 'g' :: 't' :: ';' :: rest => '>' :: decodeEntities rest
  | '&' :: '#' :: '3' :: '4' :: ';' :: rest => '"' :: decodeEntities rest
  | '&' :: '#' :: '3' :: '9' :: ';' :: rest => '\'' :: decodeEntities rest
  | c :: rest => c :: decodeEntities rest
  | [] => []

/-- The text that a fragment shows. -/
def shownText (html : Html) : List Char := decodeEntities (withoutTags html)

theorem withoutTags_nil : withoutTags [] = [] := by
  rw [withoutTags]

theorem withoutTags_cons {c : Char} (h : c ≠ '<') (rest : Html) :
    withoutTags (c :: rest) = c :: withoutTags rest := by
  rw [withoutTags, if_neg h]

/-- Text without an opening bracket is no part of a tag. -/
theorem withoutTags_append {text : List Char} (h : '<' ∉ text) (rest : Html) :
    withoutTags (text ++ rest) = text ++ withoutTags rest := by
  induction text with
  | nil => rfl
  | cons c text ih =>
      simp only [List.mem_cons, not_or] at h
      rw [List.cons_append, withoutTags_cons (Ne.symm h.1), ih h.2, List.cons_append]

theorem takeWhile_append_stop {body : List Char} {stop : Char} (h : stop ∉ body) (rest : List Char) :
    (body ++ stop :: rest).takeWhile (· != stop) = body := by
  have hBody : ∀ c ∈ body, (c != stop) = true := fun c hc => bne_iff_ne.mpr (ne_of_mem_of_not_mem hc h)
  rw [List.takeWhile_append_of_pos hBody]
  simp

theorem dropWhile_append_stop {body : List Char} {stop : Char} (h : stop ∉ body) (rest : List Char) :
    (body ++ stop :: rest).dropWhile (· != stop) = stop :: rest := by
  have hBody : ∀ c ∈ body, (c != stop) = true := fun c hc => bne_iff_ne.mpr (ne_of_mem_of_not_mem hc h)
  rw [List.dropWhile_append_of_pos hBody]
  simp

/-- A tag is dropped as a whole. -/
theorem withoutTags_tag {body : List Char} (h : '>' ∉ body) (rest : Html) :
    withoutTags ('<' :: (body ++ '>' :: rest)) = withoutTags rest := by
  rw [withoutTags, if_pos rfl, dropWhile_append_stop h]
  rfl

theorem decodeEntities_cons {c : Char} (h : c ≠ '&') (rest : List Char) :
    decodeEntities (c :: rest) = c :: decodeEntities rest := by
  apply decodeEntities.eq_6 <;> exact fun _ hAmp => absurd hAmp h

theorem decodeEntities_ne_nil (c : Char) (rest : List Char) : decodeEntities (c :: rest) ≠ [] := by
  unfold decodeEntities
  split <;> simp_all

theorem decodeEntities_escapeChar (c : Char) (rest : List Char) :
    decodeEntities (escapeChar c ++ rest) = c :: decodeEntities rest := by
  by_cases hAmp : c = '&'
  · subst hAmp; rfl
  by_cases hLt : c = '<'
  · subst hLt; rfl
  by_cases hGt : c = '>'
  · subst hGt; rfl
  by_cases hQuote : c = '"'
  · subst hQuote; rfl
  by_cases hApostrophe : c = '\''
  · subst hApostrophe; rfl
  have hPlain : escapeChar c = [c] := by simp [escapeChar, hAmp, hLt, hGt, hQuote, hApostrophe]
  rw [hPlain, List.singleton_append, decodeEntities_cons hAmp]

/-- Escaping is undone by decoding, whatever stands behind the escaped text. -/
theorem decodeEntities_escape_append (text rest : List Char) :
    decodeEntities (escape text ++ rest) = text ++ decodeEntities rest := by
  induction text with
  | nil => rfl
  | cons c text ih =>
      rw [escape, List.flatMap_cons, List.append_assoc, decodeEntities_escapeChar, ← escape, ih,
        List.cons_append]

theorem decodeEntities_escape (text : List Char) : decodeEntities (escape text) = text := by
  have h := decodeEntities_escape_append text []
  rwa [List.append_nil, decodeEntities, List.append_nil] at h

theorem notMem_escapeChar {mark : Char} (hMark : mark = '<' ∨ mark = '>' ∨ mark = '"' ∨ mark = '\'') (c : Char) :
    mark ∉ escapeChar c := by
  by_cases hSame : c = mark
  · subst hSame
    rcases hMark with rfl | rfl | rfl | rfl <;> decide
  unfold escapeChar
  split_ifs
  -- Entities hold none of the four, and what stands for itself is none of them.
  all_goals first
    | rcases hMark with rfl | rfl | rfl | rfl <;> decide
    | exact fun h => hSame (List.mem_singleton.mp h).symm

/-- In escaped text none of the characters is left that open or close a tag or a quoted attribute. -/
theorem ne_of_mem_escape {text : List Char} {c : Char} (h : c ∈ escape text) :
    c ≠ '<' ∧ c ≠ '>' ∧ c ≠ '"' ∧ c ≠ '\'' := by
  obtain ⟨d, _, hd⟩ := List.mem_flatMap.mp h
  refine ⟨?_, ?_, ?_, ?_⟩
  all_goals
    rintro rfl
    exact notMem_escapeChar (by simp) d hd

/-- Escaped text opens no tag. -/
theorem bracket_notMem_escape (text : List Char) : '<' ∉ escape text :=
  fun h => (ne_of_mem_escape h).1 rfl

theorem escape_append (text more : List Char) : escape (text ++ more) = escape text ++ escape more := by
  simp [escape]

end QueryPlayground.Html
