import QueryPlayground.Proofs.Json.RoundTrip
import QueryPlayground.Proofs.Session.Forecast
import QueryPlayground.Proofs.Settings.Forms

/-! Values that name a mode. As a setting, a value of JSON has the same display text as anywhere else, and what
cannot be shown names no mode. The words that the settings take are the tags of the modes, so the settings take
just the values that the selection of modes takes. -/
namespace QueryPlayground

namespace Tree

mutual

theorem shown_ofJson : ∀ value : Json, shown (ofJson value) = Json.shownInside value
  | .null => rfl
  | .bool true => rfl
  | .bool false => rfl
  | .int _ => rfl
  | .float _ => rfl
  | .str _ => rfl
  | .arr items => by
    rw [ofJson, shown, shownItems_ofItems items, Json.shownInside, Piece.enclosed]
  | .obj members => by
    rw [ofJson, shown, shownMembers_ofMembers members, Json.shownInside, Piece.enclosed]

theorem shownItems_ofItems : ∀ items : List Json, shownItems (ofItems items) = Json.shownItems items
  | [] => rfl
  | item :: items => by
    rw [ofItems, shownItems, shown_ofJson item, shownItems_ofItems items, Json.shownItems]

theorem shownMembers_ofMembers :
    ∀ members : List (String × Json), shownMembers (ofMembers members) = Json.shownMembers members
  | [] => rfl
  | (key, value) :: members => by
    rw [ofMembers, shownMembers, shown_ofJson value, shownMembers_ofMembers members, Json.shownMembers,
      Scalar.shown]

end

theorem display_ofJson (value : Json) : (ofJson value).display = value.display := by
  cases value with
  | arr items => exact congrArg String.ofList (shown_ofJson (.arr items))
  | obj members => exact congrArg String.ofList (shown_ofJson (.obj members))
  | str text => exact String.ofList_toList
  | bool flag => cases flag <;> rfl
  | _ => rfl

end Tree

namespace Mode

theorem parse_trim (tag : String) : parse (Text.trim tag) = parse tag := by
  rw [parse, parse, ofTag?, ofTag?, normalTag, normalTag, Text.trim_trim]

/-- The normal form of a tag begins as the tag does. -/
theorem head?_normalTag {tag : String} {c : Char} {rest : List Char} (hTag : tag.toList = c :: rest)
    (hBlank : Text.isBlank c = false) (hAscii : c.toNat < 0x80) : (normalTag tag).toList.head? = some c.toLower := by
  obtain ⟨⟨front, back, hParts, hFront, hBack⟩, -, -⟩ := Text.trim_trims tag
  obtain ⟨core, hCore⟩ : ∃ core, (Text.trim tag).toList = c :: core := by
    rw [hTag] at hParts
    cases front with
    | cons d front =>
        obtain ⟨rfl, -⟩ := List.cons.inj hParts
        rw [hFront _ List.mem_cons_self] at hBlank
        cases hBlank
    | nil =>
        cases hCore : (Text.trim tag).toList with
        | cons d core =>
            rw [hCore] at hParts
            obtain ⟨rfl, -⟩ := List.cons.inj hParts
            exact ⟨core, rfl⟩
        | nil =>
            rw [hCore, List.nil_append, List.nil_append] at hParts
            rw [hBack c (hParts ▸ List.mem_cons_self)] at hBlank
            cases hBlank
  have hSigma : c ≠ 'Σ' := by rintro rfl; revert hAscii; decide
  have hDotted : c ≠ 'İ' := by rintro rfl; revert hAscii; decide
  rw [normalTag, Text.lower, String.toList_ofList, hCore, Text.lowerChars, Text.lowerFrom]
  simp only [if_neg hSigma, if_neg hDotted, Text.lowerChar, if_pos hAscii]
  rfl

/-- A character that is no white space, and with which the tag of no mode begins. -/
structure StartsNone (c : Char) : Prop where
  blank : Text.isBlank c = false
  ascii : c.toNat < 0x80
  tags : ∀ mode : Mode, mode.tag.toList.head? ≠ some c.toLower

theorem StartsNone.normalTag_ne {c : Char} (h : StartsNone c) {tag : String} {rest : List Char}
    (hTag : tag.toList = c :: rest) (mode : Mode) : normalTag tag ≠ mode.tag := by
  intro hNormal
  have hHead := head?_normalTag hTag h.blank h.ascii
  exact h.tags mode (hNormal ▸ hHead)

theorem startsNone_digit {c : Char} (h : Binary64.isAsciiDigit c = true) : StartsNone c := by
  have hRange : 48 ≤ c.toNat ∧ c.toNat ≤ 57 := by
    simpa [Binary64.isAsciiDigit, Char.le_def, UInt32.le_iff_toNat_le] using h
  have hLower : c.toLower = c := by
    unfold Char.toLower
    rw [dif_neg]
    rintro ⟨hCapital, -⟩
    have : 65 ≤ c.toNat := UInt32.le_iff_toNat_le.mp hCapital
    omega
  refine ⟨?_, by omega, fun mode hHead => ?_⟩
  · simp only [Text.isBlank, Text.Spans.contains, Text.blankSpans, List.any_cons, List.any_nil, Bool.or_eq_false_iff,
      Bool.and_eq_false_iff, decide_eq_false_iff_not, Bool.or_false]
    omega
  · rw [hLower] at hHead
    cases mode <;> cases hHead <;> exact absurd hRange.2 (by decide)

end Mode

/-- What cannot be shown holds a number, so it is one, or a list or an object. -/
theorem Json.exists_startsNone {value : Json} (h : (Tree.ofJson value).isShowable = false) :
    ∃ c rest, value.display.toList = c :: rest ∧ Mode.StartsNone c := by
  cases value with
  | int n =>
      obtain ⟨c, rest, hText, hHead⟩ := writeInt_head n
      refine ⟨c, rest, String.toList_ofList.trans hText, ?_⟩
      rcases hHead with rfl | hDigit
      · exact ⟨by decide, by decide, fun mode => by cases mode <;> decide⟩
      · exact Mode.startsNone_digit hDigit
  | arr items =>
      exact ⟨'[', _, String.toList_ofList, by decide, by decide, fun mode => by cases mode <;> decide⟩
  | obj members =>
      exact ⟨'\x7b', _, String.toList_ofList, by decide, by decide, fun mode => by cases mode <;> decide⟩
  | _ => cases h

/-- The words that the settings take are the tags of the modes. -/
theorem Settings.validModes_eq : validModes = Mode.all.map Mode.tag := rfl

/-- A text has a form that the settings take just if it names a mode, and then the form is the tag of that. -/
theorem Settings.normalMode_mem_iff {text word : String} :
    normalMode text ∈ validModes ∧ normalMode text = word ↔
      ∃ mode, Mode.parse text = .ok mode ∧ mode.tag = word := by
  simp only [Mode.parse_eq_ok_iff, validModes_eq, List.mem_map]
  constructor
  · rintro ⟨⟨mode, -, hTag⟩, rfl⟩
    exact ⟨mode, hTag.symm, hTag⟩
  · rintro ⟨mode, hNormal, rfl⟩
    exact ⟨⟨mode, by cases mode <;> decide, hNormal.symm⟩, hNormal⟩

/-- A value of JSON is a mode as a setting just if it names one by its display text, and its form is the tag of
that mode. -/
theorem Setting.hasForm_ofJson_iff (value : Json) (word : String) :
    HasForm .defaultMode (Tree.ofJson value) (.text word) ↔
      ∃ mode, Mode.parseValue value = .ok mode ∧ mode.tag = word := by
  simp only [hasForm_iff, normalForm, Option.ite_none_right_eq_some, Option.some.injEq, Value.text.injEq, and_assoc,
    Tree.display_ofJson, Settings.normalMode_mem_iff, Mode.parseValue]
  refine and_iff_right_of_imp ?_
  rintro ⟨mode, hMode, -⟩
  cases hShown : (Tree.ofJson value).isShowable with
  | true => rfl
  | false =>
      obtain ⟨c, rest, hText, hStarts⟩ := Json.exists_startsNone hShown
      exact absurd (Mode.parse_eq_ok_iff.mp hMode) (hStarts.normalTag_ne hText mode)

end QueryPlayground
