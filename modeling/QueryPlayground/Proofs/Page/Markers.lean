import Mathlib.Data.List.Basic
import QueryPlayground.Proofs.Page.Kinds
import QueryPlayground.Proofs.Page.Markup

/-! The markers of a highlighted text. They can be told from all that is highlighted, be it markup itself:
without them the escaped text is left, and they come in turns, an opening one and a closing one. -/
namespace QueryPlayground

namespace Html

/-- A marker of the highlighter. An opening one bears the letters behind `json-` in its class. -/
inductive Marker where
  | opening (letters : List Char)
  | closing
  deriving DecidableEq, Repr

/-- The letters of an opening marker up to its end, and what stands behind it. -/
def readLetters? (html : Html) : Option (Marker × Html) :=
  match html.takeWhile Char.isAlpha, html.dropWhile Char.isAlpha with
  | c :: letters, '"' :: '>' :: rest => some (.opening (c :: letters), rest)
  | _, _ => none

/-- The marker at the front of a fragment, and what stands behind it. -/
def readMarker? (html : Html) : Option (Marker × Html) :=
  match "</span>".toList.isPrefixOf? html with
  | some rest => some (.closing, rest)
  | none => ("<span class=\"json-".toList.isPrefixOf? html).bind readLetters?

theorem length_lt_of_readLetters? {html rest : Html} {marker : Marker} (h : readLetters? html = some (marker, rest)) :
    rest.length < html.length := by
  unfold readLetters? at h
  split at h
  next hDrop =>
      cases h
      have hLength := (List.dropWhile_suffix Char.isAlpha (l := html)).length_le
      rw [hDrop, List.length_cons, List.length_cons] at hLength
      omega
  next => cases h

theorem length_lt_of_readMarker? {html rest : Html} {marker : Marker} (h : readMarker? html = some (marker, rest)) :
    rest.length < html.length := by
  unfold readMarker? at h
  split at h
  next hClose =>
      cases h
      rw [← List.isPrefixOf?_eq_some_iff_append_eq.mp hClose, List.length_append]
      exact Nat.lt_add_of_pos_left (by decide)
  next =>
      obtain ⟨after, hOpen, hLetters⟩ := Option.bind_eq_some_iff.mp h
      have hLength := length_lt_of_readLetters? hLetters
      rw [← List.isPrefixOf?_eq_some_iff_append_eq.mp hOpen, List.length_append]
      omega

/-- A part of a fragment: a marker, or a character of anything else. -/
inductive Part where
  | marker (marker : Marker)
  | char (c : Char)
  deriving DecidableEq, Repr

/-- The parts of a fragment, from left to right. -/
def parts : Html → List Part
  | [] => []
  | c :: rest =>
    match _hMarker : readMarker? (c :: rest) with
    | some (marker, after) => .marker marker :: parts after
    | none => .char c :: parts rest
termination_by html => html.length
decreasing_by
  · exact length_lt_of_readMarker? _hMarker
  · simp

def Part.marker? : Part → Option Marker
  | .marker found => some found
  | .char _ => none

def Part.char? : Part → Option Char
  | .marker _ => none
  | .char c => some c

/-- The markers of a fragment, in order. -/
def markers (html : Html) : List Marker := (parts html).filterMap Part.marker?

/-- A fragment with its markers deleted. -/
def withoutMarkers (html : Html) : List Char := (parts html).filterMap Part.char?

/-- Markers that come in turns: the first one opens, the last one closes. -/
inductive InTurns : List Marker → Prop where
  | nil : InTurns []
  | pair (letters : List Char) {rest : List Marker} (h : InTurns rest) :
    InTurns (.opening letters :: .closing :: rest)

@[simp]
theorem filterMap_char?_chars (text : List Char) : (text.map Part.char).filterMap Part.char? = text := by
  rw [List.filterMap_map]
  exact List.filterMap_some

@[simp]
theorem filterMap_marker?_chars (text : List Char) : (text.map Part.char).filterMap Part.marker? = [] := by
  rw [List.filterMap_map]
  exact List.filterMap_eq_nil_iff.mpr fun _ _ => rfl

theorem parts_of_readMarker? {html rest : Html} {marker : Marker} (h : readMarker? html = some (marker, rest)) :
    parts html = .marker marker :: parts rest := by
  cases html with
  | nil => exact absurd (length_lt_of_readMarker? h) (Nat.not_lt_zero _)
  | cons c html =>
      rw [parts]
      split
      next hOther =>
          rw [h] at hOther
          cases hOther
          rfl
      next hNone =>
          rw [h] at hNone
          cases hNone

/-- Text without an opening bracket has no markers. -/
theorem parts_append {text : List Char} (h : '<' ∉ text) (rest : Html) :
    parts (text ++ rest) = text.map .char ++ parts rest := by
  induction text with
  | nil => rfl
  | cons c text ih =>
      simp only [List.mem_cons, not_or] at h
      have hOther (mark : List Char) : ('<' :: mark).isPrefixOf? (c :: (text ++ rest)) = none := by
        rw [List.isPrefixOf?, if_neg (by simpa using h.1)]
      have hNone : readMarker? (c :: (text ++ rest)) = none := by
        have hClose : "</span>".toList.isPrefixOf? (c :: (text ++ rest)) = none := hOther "/span>".toList
        have hOpen : "<span class=\"json-".toList.isPrefixOf? (c :: (text ++ rest)) = none :=
          hOther "span class=\"json-".toList
        rw [readMarker?, hClose]
        dsimp only
        rw [hOpen, Option.bind_none]
      rw [List.cons_append, parts]
      split
      next hSome =>
          rw [hNone] at hSome
          cases hSome
      next => rw [ih h.2, List.map_cons, List.cons_append]

end Html

namespace Highlight

open Html (Marker Part parts markers withoutMarkers InTurns escape)

/-- The letters by which the class of a kind ends. -/
def Kind.letters : Kind → List Char
  | .key => ['k', 'e', 'y']
  | .string => ['s', 't', 'r', 'i', 'n', 'g']
  | .boolean => ['b', 'o', 'o', 'l', 'e', 'a', 'n']
  | .null => ['n', 'u', 'l', 'l']
  | .number => ['n', 'u', 'm', 'b', 'e', 'r']

/-- The parts of a token: its escaped text, between markers if it is tagged. -/
def tokenParts (token : Token) : List Part :=
  match token.kind with
  | none => (escape token.text).map .char
  | some kind => .marker (.opening kind.letters) :: ((escape token.text).map .char ++ [.marker .closing])

theorem parts_toHtml (token : Token) (rest : Html) :
    parts (token.toHtml ++ rest) = tokenParts token ++ parts rest := by
  have hText := Html.bracket_notMem_escape token.text
  obtain ⟨text, kind⟩ := token
  cases kind with
  | none => exact Html.parts_append hText rest
  | some kind =>
      have hOpen (after : Html) : parts ("<span class=\"".toList ++ kind.cssClass.toList ++ "\">".toList ++ after) =
          .marker (.opening kind.letters) :: parts after :=
        Html.parts_of_readMarker? (by cases kind <;> rfl)
      have hClose : parts ("</span>".toList ++ rest) = .marker .closing :: parts rest :=
        Html.parts_of_readMarker? rfl
      have hWhole := hOpen (escape text ++ ("</span>".toList ++ rest))
      rw [Html.parts_append hText, hClose] at hWhole
      simpa [Token.toHtml, tokenParts] using hWhole

theorem parts_highlight (text : List Char) : parts (highlight text) = (tokens text).flatMap tokenParts := by
  have hTokens (tokens : List Token) : parts (tokens.flatMap Token.toHtml) = tokens.flatMap tokenParts := by
    induction tokens with
    | nil => rw [List.flatMap_nil, parts, List.flatMap_nil]
    | cons token tokens ih => rw [List.flatMap_cons, parts_toHtml, ih, List.flatMap_cons]
  exact hTokens _

/-- Without its markers a highlighted text is the escaped text: escaping token by token is escaping the whole. -/
theorem withoutMarkers_highlight (text : List Char) : withoutMarkers (highlight text) = escape text := by
  have hToken (token : Token) : (tokenParts token).filterMap Part.char? = escape token.text := by
    obtain ⟨text, kind⟩ := token
    cases kind with
    | none => exact Html.filterMap_char?_chars _
    | some kind =>
        change ((escape text).map Part.char ++ [Part.marker .closing]).filterMap Part.char? = escape text
        rw [List.filterMap_append, Html.filterMap_char?_chars]
        exact List.append_nil _
  have hTokens (tokens : List Token) :
      tokens.flatMap (fun token => escape token.text) = escape (tokens.flatMap Token.text) :=
    List.flatMap_assoc.symm
  rw [withoutMarkers, parts_highlight, List.filterMap_flatMap]
  simp only [hToken]
  rw [hTokens, tokens_flatMap_text]

/-- The markers of a highlighted text are those around its tokens, in order. -/
theorem markers_highlight (text : List Char) :
    markers (highlight text) = (kindsOf (tokens text)).flatMap fun kind => [.opening kind.letters, .closing] := by
  have hToken (token : Token) : (tokenParts token).filterMap Part.marker? =
      token.kind.elim [] fun kind => [.opening kind.letters, .closing] := by
    obtain ⟨text, kind⟩ := token
    cases kind with
    | none => exact Html.filterMap_marker?_chars _
    | some kind =>
        change Marker.opening kind.letters ::
          ((escape text).map Part.char ++ [Part.marker .closing]).filterMap Part.marker? = _
        rw [List.filterMap_append, Html.filterMap_marker?_chars]
        rfl
  rw [markers, parts_highlight, List.filterMap_flatMap]
  simp only [hToken]
  exact flatMap_kindsOf _ _

theorem inTurns_pairs (kinds : List Kind) :
    InTurns (kinds.flatMap fun kind => [.opening kind.letters, .closing]) := by
  induction kinds with
  | nil => exact .nil
  | cons kind kinds ih => exact .pair kind.letters ih

/-- A text can be read off its highlighting, whatever it holds: it is what is left without the markers, decoded.
The markers come in turns, and no character of markup is left beside them. -/
theorem highlight_reads_back (text : List Char) :
    Html.decodeEntities (withoutMarkers (highlight text)) = text ∧ InTurns (markers (highlight text)) ∧
      ∀ c ∈ withoutMarkers (highlight text), c ≠ '<' ∧ c ≠ '>' ∧ c ≠ '"' ∧ c ≠ '\'' := by
  rw [withoutMarkers_highlight, markers_highlight]
  exact ⟨Html.decodeEntities_escape text, inTurns_pairs _, fun _ => Html.ne_of_mem_escape⟩

end Highlight
end QueryPlayground
