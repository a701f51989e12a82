import Mathlib.Data.List.TakeWhile
import QueryPlayground.Proofs.Page.Markup

/-! Fragments segment by segment, as one who displays them takes them apart: tags with their attributes, and the texts
between them. A quoted value may hold any character but its quotation mark, brackets too, so that only the
value itself can keep it from ending the tag it stands in. -/
namespace QueryPlayground.Html

/-- The attributes of a tag, each a name with its value. -/
abbrev Attributes := List (List Char × List Char)

/-- A segment of a fragment. The values of attributes and the texts are decoded. -/
inductive Segment where
  | opening (name : List Char) (attributes : Attributes)
  | closing (name : List Char)
  | text (text : List Char)
  deriving DecidableEq, Repr

/-- An attribute whose value stands in quotation marks, and what stands behind it. -/
def readAttribute? (html : Html) : Option ((List Char × List Char) × Html) :=
  match html.dropWhile (· != '=') with
  | '=' :: '"' :: rest =>
    match rest.dropWhile (· != '"') with
    | _ :: after => some ((html.takeWhile (· != '='), decodeEntities (rest.takeWhile (· != '"'))), after)
    | [] => none
  | _ => none

theorem length_lt_of_readAttribute? {html after : Html} {pair : List Char × List Char}
    (h : readAttribute? html = some (pair, after)) : after.length < html.length := by
  unfold readAttribute? at h
  split at h
  next rest hName =>
      split at h
      next hValue =>
          cases h
          have hNameLength := (List.dropWhile_suffix (· != '=') (l := html)).length_le
          have hValueLength := (List.dropWhile_suffix (· != '"') (l := rest)).length_le
          rw [hName, List.length_cons, List.length_cons] at hNameLength
          rw [hValue, List.length_cons] at hValueLength
          omega
      next => cases h
  next => cases h

/-- The attributes of a tag up to its end, each behind a blank, and what stands behind the tag. -/
def readAttributes? : Html → Option (Attributes × Html)
  | '>' :: rest => some ([], rest)
  | ' ' :: rest =>
    match _hPair : readAttribute? rest with
    | some (pair, after) => (readAttributes? after).map fun (attributes, behind) => (pair :: attributes, behind)
    | none => none
  | _ => none
termination_by html => html.length
decreasing_by
  have hLength := length_lt_of_readAttribute? _hPair
  rw [List.length_cons]
  omega

/-- The tag that an opening bracket begins, and what stands behind it. -/
def readTag? : Html → Option (Segment × Html)
  | '/' :: rest =>
    match rest.dropWhile Char.isAlpha with
    | '>' :: after => some (.closing (rest.takeWhile Char.isAlpha), after)
    | _ => none
  | html =>
    (readAttributes? (html.dropWhile Char.isAlpha)).map fun (attributes, after) =>
      (.opening (html.takeWhile Char.isAlpha) attributes, after)

theorem length_le_of_readAttributes? {html after : Html} {attributes : Attributes}
    (h : readAttributes? html = some (attributes, after)) : after.length ≤ html.length := by
  fun_induction readAttributes? html generalizing attributes after with
  | case1 rest =>
      cases h
      exact Nat.le_succ _
  | case2 rest pair behind hPair ih =>
      obtain ⟨⟨others, last⟩, hOthers, hSame⟩ := Option.map_eq_some_iff.mp h
      cases hSame
      have hLength := length_lt_of_readAttribute? hPair
      have hRest := ih hOthers
      rw [List.length_cons]
      omega
  | case3 => cases h
  | case4 => cases h

theorem length_le_of_readTag? {html after : Html} {segment : Segment} (h : readTag? html = some (segment, after)) :
    after.length ≤ html.length := by
  unfold readTag? at h
  split at h
  next rest =>
      split at h
      next hName =>
          cases h
          have hLength := (List.dropWhile_suffix Char.isAlpha (l := rest)).length_le
          rw [hName, List.length_cons] at hLength
          rw [List.length_cons]
          omega
      next => cases h
  next =>
      obtain ⟨⟨attributes, last⟩, hAttributes, hSame⟩ := Option.map_eq_some_iff.mp h
      cases hSame
      have hLength := (List.dropWhile_suffix Char.isAlpha (l := html)).length_le
      exact (length_le_of_readAttributes? hAttributes).trans hLength

/-- The segments of a fragment, in order. A bracket that begins no tag stands for itself. -/
def segments : Html → List Segment
  | [] => []
  | c :: rest =>
    if c = '<' then
      match _hTag : readTag? rest with
      | some (segment, after) => segment :: segments after
      | none => .text [c] :: segments rest
    else .text (decodeEntities (c :: rest.takeWhile (· != '<'))) :: segments (rest.dropWhile (· != '<'))
termination_by html => html.length
decreasing_by
  · have hLength := length_le_of_readTag? _hTag
    rw [List.length_cons]
    omega
  · simp
  · have hLength := (List.dropWhile_suffix (· != '<') (l := rest)).length_le
    rw [List.length_cons]
    omega

/-! ### Reading what is written -/

theorem readAttribute?_append {name value : List Char} (hName : '=' ∉ name) (hValue : '"' ∉ value) (rest : Html) :
    readAttribute? (name ++ '=' :: '"' :: (value ++ '"' :: rest)) = some ((name, decodeEntities value), rest) := by
  rw [readAttribute?, dropWhile_append_stop hName, takeWhile_append_stop hName]
  simp only [dropWhile_append_stop hValue, takeWhile_append_stop hValue]

/-- An attribute reaches up to its quotation mark, whatever its value holds otherwise. -/
theorem readAttributes?_append {name value : List Char} (hName : '=' ∉ name) (hValue : '"' ∉ value) (rest : Html) :
    readAttributes? (' ' :: (name ++ '=' :: '"' :: (value ++ '"' :: rest))) =
      (readAttributes? rest).map fun (attributes, behind) =>
        ((name, decodeEntities value) :: attributes, behind) := by
  have hPair := readAttribute?_append hName hValue rest
  rw [readAttributes?]
  split
  next hOther =>
      rw [hPair] at hOther
      cases hOther
      rfl
  next hNone =>
      rw [hPair] at hNone
      cases hNone

/-- Attributes as they are written: each behind a blank, its value escaped and in quotation marks. -/
def writeAttributes (attributes : Attributes) : Html :=
  attributes.flatMap fun (name, value) => ' ' :: (name ++ '=' :: '"' :: (escape value ++ ['"']))

def openTag (name : List Char) (attributes : Attributes) : Html :=
  '<' :: (name ++ (writeAttributes attributes ++ ['>']))

def closeTag (name : List Char) : Html := '<' :: '/' :: (name ++ ['>'])

theorem readAttributes?_written {attributes : Attributes} (h : ∀ pair ∈ attributes, '=' ∉ pair.1) (rest : Html) :
    readAttributes? (writeAttributes attributes ++ '>' :: rest) = some (attributes, rest) := by
  induction attributes with
  | nil => rw [writeAttributes, List.flatMap_nil, List.nil_append, readAttributes?]
  | cons pair attributes ih =>
      obtain ⟨name, value⟩ := pair
      obtain ⟨hName, hRest⟩ := List.forall_mem_cons.mp h
      have hValue : '"' ∉ escape value := fun hMark => (ne_of_mem_escape hMark).2.2.1 rfl
      have hPair := readAttributes?_append hName hValue (writeAttributes attributes ++ '>' :: rest)
      rw [ih hRest, decodeEntities_escape] at hPair
      simpa [writeAttributes] using hPair

/-- A tag that is read is one segment. -/
theorem segments_of_readTag? {html rest : Html} {segment : Segment} (h : readTag? html = some (segment, rest)) :
    segments ('<' :: html) = segment :: segments rest := by
  rw [segments, if_pos rfl]
  split
  next hOther =>
      rw [h] at hOther
      cases hOther
      rfl
  next hNone =>
      rw [h] at hNone
      cases hNone

/-- A written tag is read as it was, whatever its values hold. -/
theorem segments_openTag {name : List Char} (hName : ∀ c ∈ name, c.isAlpha = true) (hSome : name ≠ [])
    {attributes : Attributes} (hAttributes : ∀ pair ∈ attributes, '=' ∉ pair.1) (rest : Html) :
    segments (openTag name attributes ++ rest) = .opening name attributes :: segments rest := by
  have hRead := readAttributes?_written hAttributes rest
  have hEnd : (writeAttributes attributes ++ '>' :: rest).head?.any Char.isAlpha = false := by
    cases attributes <;> rfl
  have hTag : readTag? (name ++ (writeAttributes attributes ++ '>' :: rest)) =
      some (.opening name attributes, rest) := by
    unfold readTag?
    split
    next after hSlash =>
        obtain ⟨c, tail, rfl⟩ := List.exists_cons_of_ne_nil hSome
        cases hSlash
        exact absurd (hName '/' List.mem_cons_self) (by decide)
    next =>
        rw [List.dropWhile_append_of_pos hName, List.takeWhile_append_of_pos hName]
        cases hAfter : writeAttributes attributes ++ '>' :: rest with
        | nil => simp at hAfter
        | cons c after =>
            rw [hAfter] at hRead hEnd
            have hStop : c.isAlpha = false := hEnd
            rw [List.dropWhile_cons_of_neg (by simp [hStop]), List.takeWhile_cons_of_neg (by simp [hStop]), hRead,
              List.append_nil]
            rfl
  have hSegments := segments_of_readTag? hTag
  simpa [openTag] using hSegments

theorem segments_closeTag {name : List Char} (hName : ∀ c ∈ name, c.isAlpha = true) (rest : Html) :
    segments (closeTag name ++ rest) = .closing name :: segments rest := by
  have hTag : readTag? ('/' :: (name ++ '>' :: rest)) = some (.closing name, rest) := by
    rw [readTag?, List.dropWhile_append_of_pos hName, List.takeWhile_append_of_pos hName]
    simp
  have hSegments := segments_of_readTag? hTag
  simpa [closeTag] using hSegments

/-- Text between tags is one segment, and none if it is empty. -/
def textSegments (text : List Char) : List Segment := if text = [] then [] else [.text text]

theorem forall_textSegments {p : Segment → Prop} {text : List Char} (h : p (.text text)) :
    ∀ segment ∈ textSegments text, p segment := by
  unfold textSegments
  split
  next => simp
  next => exact List.forall_mem_singleton.mpr h

/-- Text up to the next bracket is read as a whole. -/
theorem segments_append {text : List Char} (h : '<' ∉ text) {rest : Html} (hRest : ∀ c ∈ rest.head?, c = '<') :
    segments (text ++ rest) = textSegments (decodeEntities text) ++ segments rest := by
  cases text with
  | nil => rfl
  | cons c text =>
      simp only [List.mem_cons, not_or] at h
      have hSpan : (text ++ rest).takeWhile (· != '<') = text ∧ (text ++ rest).dropWhile (· != '<') = rest := by
        cases rest with
        | nil =>
            have hText : ∀ d ∈ text, (d != '<') = true := fun d hd => bne_iff_ne.mpr (ne_of_mem_of_not_mem hd h.2)
            rw [List.append_nil]
            exact ⟨List.takeWhile_eq_self_iff.mpr hText, List.dropWhile_eq_nil_iff.mpr hText⟩
        | cons d rest =>
            obtain rfl : d = '<' := hRest d rfl
            exact ⟨takeWhile_append_stop h.2 rest, dropWhile_append_stop h.2 rest⟩
      rw [List.cons_append, segments, if_neg (Ne.symm h.1), hSpan.1, hSpan.2, textSegments,
        if_neg (decodeEntities_ne_nil c text)]
      rfl

/-- Escaped text is read as it was. -/
theorem segments_escape (text : List Char) {rest : Html} (hRest : ∀ c ∈ rest.head?, c = '<') :
    segments (escape text ++ rest) = textSegments text ++ segments rest := by
  rw [segments_append (bracket_notMem_escape text) hRest, decodeEntities_escape]

end QueryPlayground.Html
