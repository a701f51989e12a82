import QueryPlayground.Proofs.Json.Blank
import QueryPlayground.Proofs.Page.Traversal

/-! The kinds of the tokens of a written value. Unlike the tokens themselves they do not depend on the
strings and names in it, and they are known for every value: a double that is not finite has no token, for
the words that are written for it are none of the three that count. -/
namespace QueryPlayground.Highlight

open Json (writeAt writeItems writeMembers writeString writeFloat Style)

/-- The kinds of the tagged tokens among some. -/
def kindsOf (tokens : List Token) : List Kind := tokens.filterMap Token.kind

/-- What untagged tokens do not add to depends on the kinds alone. -/
theorem flatMap_kindsOf {β : Type} (part : Kind → List β) (tokens : List Token) :
    tokens.flatMap (fun token => token.kind.elim [] part) = (kindsOf tokens).flatMap part := by
  induction tokens with
  | nil => rfl
  | cons token tokens ih =>
      obtain ⟨text, kind⟩ := token
      cases kind <;> simp_all [kindsOf]

mutual

/-- The kinds of the tokens that a walk through a value meets. -/
def kinds : Json → List Kind
  | .null => [.null]
  | .bool _ => [.boolean]
  | .int _ => [.number]
  | .float x => if x.isFinite then [.number] else []
  | .str _ => [.string]
  | .arr items => itemKinds items
  | .obj members => memberKinds members

def itemKinds : List Json → List Kind
  | [] => []
  | item :: items => kinds item ++ itemKinds items

def memberKinds : List (String × Json) → List Kind
  | [] => []
  | (_, value) :: members => .key :: (kinds value ++ memberKinds members)

end

theorem kindsOf_consPlain (c : Char) (tokens : List Token) :
    kindsOf (consPlain c tokens) = kindsOf tokens := by
  cases tokens with
  | nil => rfl
  | cons token rest =>
      obtain ⟨text, kind⟩ := token
      cases kind <;> rfl

/-- A character that starts no token shows no kind. -/
theorem kindsOf_plain {afterWord : Bool} {c : Char} {s : List Char}
    (hReach : tagReach? afterWord c s = none) :
    kindsOf (tokensFrom afterWord (c :: s)) = kindsOf (tokensFrom (Text.isWord c) s) := by
  rw [tokensFrom, hReach]
  exact kindsOf_consPlain c _

theorem kindsOf_layout (afterWord : Bool) {c : Char} (hc : isLayout c = true) (s : List Char) :
    kindsOf (tokensFrom afterWord (c :: s)) = kindsOf (tokensFrom false s) := by
  rw [kindsOf_plain (tagReach?_layout afterWord hc s), isWord_layout hc]

theorem kindsOf_layout_append {gap : List Char} (hGap : ∀ c ∈ gap, isLayout c = true) (s : List Char) :
    kindsOf (tokensFrom false (gap ++ s)) = kindsOf (tokensFrom false s) := by
  induction gap with
  | nil => rfl
  | cons c gap ih =>
      rw [List.cons_append, kindsOf_layout false (hGap c (by simp)),
        ih fun d hd => hGap d (List.mem_cons_of_mem _ hd)]

/-- A text that may follow a value, with the kinds of its tokens. -/
structure Trails (s : List Char) (after : List Kind) : Prop where
  stops : Stops s
  kinds : ∀ afterWord, kindsOf (tokensFrom afterWord s) = after

theorem trails_nil : Trails [] [] := ⟨stops_nil, fun _ => by simp [tokensFrom, kindsOf]⟩

/-- A bracket or a comma may follow a value, whatever stands behind it. -/
theorem trails_cons {c : Char} {s : List Char} {after : List Kind} (hc : isLayout c = true)
    (hBlank : Text.isBlank c = false) (h : kindsOf (tokensFrom false s) = after) :
    Trails (c :: s) after := by
  have hColon : c ≠ ':' := by
    rintro rfl
    exact absurd hc (by decide)
  refine ⟨⟨by simpa using hc, colonReach_of_ne hBlank hColon s⟩, ?_⟩
  intro afterWord
  rw [kindsOf_layout afterWord hc, h]

theorem Trails.lead_append {s : List Char} {after : List Kind} (h : Trails s after) (depth : Nat) :
    Trails (Style.indented.lead depth ++ s) after := by
  refine ⟨stops_append (isLayout_lead depth) (isBlank_lead depth) h.stops, ?_⟩
  intro afterWord
  have hBreak : isLayout '\n' = true := rfl
  have hBlanks : ∀ c ∈ List.replicate (2 * depth) ' ', isLayout c = true :=
    fun c hc => isLayout_lead depth c (List.mem_cons_of_mem '\n' hc)
  rw [← h.kinds false, ← kindsOf_layout_append hBlanks s, ← kindsOf_layout afterWord hBreak]
  rfl

theorem Trails.token_append {text s : List Char} {kind : Kind} {after : List Kind} (h : Trails s after)
    (hToken : IsToken text kind s) : kindsOf (tokensFrom false (text ++ s)) = kind :: after := by
  obtain ⟨afterWord, hTokens⟩ := hToken
  rw [hTokens, ← h.kinds afterWord]
  rfl

/-- What is written for a double that is not finite has no token: no word in it stands alone. -/
theorem Trails.nonfinite_append {s : List Char} {after : List Kind} (h : Trails s after) {x : Binary64}
    (hx : x.isFinite = false) : kindsOf (tokensFrom false (writeFloat x ++ s)) = after := by
  have hInfinity : kindsOf (tokensFrom false ("Infinity".toList ++ s)) = after := by
    change kindsOf (tokensFrom false ('I' :: 'n' :: 'f' :: 'i' :: 'n' :: 'i' :: 't' :: 'y' :: s)) = after
    iterate 8 rw [kindsOf_plain]
    · exact h.kinds _
    all_goals rfl
  cases x with
  | finite negative m e => cases hx
  | nan =>
      change kindsOf (tokensFrom false ('N' :: 'a' :: 'N' :: s)) = after
      iterate 3 rw [kindsOf_plain]
      · exact h.kinds _
      all_goals rfl
  | infinite negative =>
      cases negative with
      | false => exact hInfinity
      | true =>
          change kindsOf (tokensFrom false ('-' :: ("Infinity".toList ++ s))) = after
          rw [kindsOf_plain]
          · exact hInfinity
          · rfl

/-- The kinds of a value's tokens, at every depth and before everything that may follow it. -/
def Tinted (v : Json) : Prop :=
  ∀ depth s after, Trails s after →
    kindsOf (tokensFrom false (writeAt .indented depth v ++ s)) = kinds v ++ after

theorem trails_writeItems (depth : Nat) {items : List Json} (hItems : ∀ item ∈ items, Tinted item)
    {s : List Char} {after : List Kind} (h : Trails s after) :
    Trails (writeItems .indented depth items ++ s) (itemKinds items ++ after) := by
  induction items with
  | nil => simpa only [writeItems, itemKinds, List.nil_append] using h
  | cons item items ih =>
      have hTail := ih fun v hv => hItems v (List.mem_cons_of_mem _ hv)
      have hItem := hItems item (by simp) depth _ _ hTail
      rw [← kindsOf_layout_append (isLayout_lead depth)] at hItem
      simpa only [writeItems, itemKinds, afterComma_indented, List.cons_append, List.append_assoc] using
        trails_cons (c := ',') rfl rfl hItem

/-- A name with its colon, a blank, and the value that it names. -/
theorem kindsOf_member (depth : Nat) (name : String) {value : Json} (hValue : Tinted value)
    {s : List Char} {after : List Kind} (h : Trails s after) :
    kindsOf (tokensFrom false (writeString Style.indented.asciiOnly name ++ (Style.indented.colon ++
      (writeAt .indented depth value ++ s)))) = .key :: (kinds value ++ after) := by
  obtain ⟨afterWord, hTokens⟩ := isToken_key false name (' ' :: (writeAt .indented depth value ++ s))
  have hText : writeString Style.indented.asciiOnly name ++ (Style.indented.colon ++
      (writeAt .indented depth value ++ s)) =
      writeString false name ++ [':'] ++ ' ' :: (writeAt .indented depth value ++ s) := by
    simp [Style.indented]
  rw [hText, hTokens, ← hValue depth s after h, ← kindsOf_layout afterWord (c := ' ') rfl]
  rfl

theorem trails_writeMembers (depth : Nat) {members : List (String × Json)}
    (hMembers : ∀ member ∈ members, Tinted member.2) {s : List Char} {after : List Kind}
    (h : Trails s after) :
    Trails (writeMembers .indented depth members ++ s) (memberKinds members ++ after) := by
  induction members with
  | nil => simpa only [writeMembers, memberKinds, List.nil_append] using h
  | cons member members ih =>
      obtain ⟨name, value⟩ := member
      have hTail := ih fun v hv => hMembers v (List.mem_cons_of_mem _ hv)
      have hMember := kindsOf_member depth name (hMembers (name, value) (by simp)) hTail
      rw [← kindsOf_layout_append (isLayout_lead depth)] at hMember
      simpa only [writeMembers, memberKinds, afterComma_indented, List.cons_append, List.append_assoc] using
        trails_cons (c := ',') rfl rfl hMember

/-- The tokens of every written value have the kinds that the walk through it meets. -/
theorem tinted (v : Json) : Tinted v := by
  induction v using Json.parts_induction with
  | null =>
      intro depth s after h
      exact h.token_append (isToken_word h.stops (c := 'n') rfl)
  | bool b =>
      intro depth s after h
      cases b with
      | true => exact h.token_append (isToken_word h.stops (c := 't') rfl)
      | false => exact h.token_append (isToken_word h.stops (c := 'f') rfl)
  | int n =>
      intro depth s after h
      exact h.token_append (isToken_number (Json.writeInt_isNumberText n) h.stops)
  | float x =>
      intro depth s after h
      cases hx : x.isFinite with
      | true =>
          have hNumber := h.token_append (isToken_number (Json.writeFloat_isNumberText hx) h.stops)
          simpa [kinds, hx, writeAt] using hNumber
      | false => simpa [kinds, hx, writeAt] using h.nonfinite_append hx
  | str string =>
      intro depth s after h
      exact h.token_append (isToken_string h.stops.colon false string)
  | arr items ih =>
      intro depth s after h
      have hClose := trails_cons (c := ']') rfl rfl (h.kinds false)
      cases items with
      | nil =>
          rw [writeAt, List.cons_append, kindsOf_layout false (c := '[') rfl]
          exact hClose.kinds false
      | cons item items =>
          have hItems := trails_writeItems (depth + 1) (fun v hv => ih v (List.mem_cons_of_mem _ hv))
            (hClose.lead_append depth)
          have hItem := ih item (by simp) (depth + 1) _ _ hItems
          rw [← kindsOf_layout_append (isLayout_lead (depth + 1)),
            ← kindsOf_layout false (c := '[') rfl] at hItem
          simpa only [writeAt, kinds, itemKinds, List.cons_append, List.append_assoc, List.nil_append] using
            hItem
  | obj members ih =>
      intro depth s after h
      have hClose := trails_cons (c := '\x7d') rfl rfl (h.kinds false)
      cases members with
      | nil =>
          rw [writeAt, List.cons_append, kindsOf_layout false (c := '\x7b') rfl]
          exact hClose.kinds false
      | cons member members =>
          obtain ⟨name, value⟩ := member
          have hMembers := trails_writeMembers (depth + 1) (fun v hv => ih v (List.mem_cons_of_mem _ hv))
            (hClose.lead_append depth)
          have hMember := kindsOf_member (depth + 1) name (ih (name, value) (by simp)) hMembers
          rw [← kindsOf_layout_append (isLayout_lead (depth + 1)),
            ← kindsOf_layout false (c := '\x7b') rfl] at hMember
          simpa only [writeAt, kinds, memberKinds, List.cons_append, List.append_assoc, List.nil_append] using
            hMember

theorem kindsOf_tokens_writeAt (v : Json) : kindsOf (tokens (writeAt .indented 0 v)) = kinds v := by
  have hTokens := tinted v 0 [] [] trails_nil
  rwa [List.append_nil, List.append_nil] at hTokens

/-- The kinds do not depend on the strings and names of a value. -/
theorem kinds_blank (v : Json) : kinds v.blank = kinds v := by
  induction v using Json.parts_induction with
  | null => rfl
  | bool b => rfl
  | int n => rfl
  | float x => rfl
  | str s => rfl
  | arr items ih =>
      simp only [Json.blank, kinds]
      induction items with
      | nil => rfl
      | cons item items ihItems =>
          rw [Json.blankItems, itemKinds, itemKinds, ih item (by simp),
            ihItems fun v hv => ih v (List.mem_cons_of_mem _ hv)]
  | obj members ih =>
      simp only [Json.blank, kinds]
      induction members with
      | nil => rfl
      | cons member members ihMembers =>
          obtain ⟨name, value⟩ := member
          rw [Json.blankMembers, memberKinds, memberKinds, ih (name, value) (by simp),
            ihMembers fun v hv => ih v (List.mem_cons_of_mem _ hv)]

end QueryPlayground.Highlight
