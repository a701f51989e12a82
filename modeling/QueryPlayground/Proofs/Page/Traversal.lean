import QueryPlayground.Proofs.Page.Literals

/-! The tokens of a written value. Highlighting is one pass over a flat text, yet on the text of a value
its tagged tokens are those that a walk through the value gives. The walk hands each part of the value
the text and the tokens that come after it. -/
namespace QueryPlayground.Highlight

open Json (writeAt writeItems writeMembers writeString writeInt writeFloat Style)

/-- Values whose doubles are finite. A name may stand more than once in an object. -/
inductive HasFiniteNumbers : Json → Prop where
  | null : HasFiniteNumbers .null
  | bool (b : Bool) : HasFiniteNumbers (.bool b)
  | int (n : Int) : HasFiniteNumbers (.int n)
  | float {x : Binary64} (finite : x.isFinite = true) : HasFiniteNumbers (.float x)
  | str (s : String) : HasFiniteNumbers (.str s)
  | arr {items : List Json} (each : ∀ item ∈ items, HasFiniteNumbers item) : HasFiniteNumbers (.arr items)
  | obj {members : List (String × Json)} (each : ∀ member ∈ members, HasFiniteNumbers member.2) :
      HasFiniteNumbers (.obj members)

mutual

/-- The tagged tokens that a walk through a value meets. -/
def marks : Json → List Token
  | .null => [⟨['n', 'u', 'l', 'l'], some .null⟩]
  | .bool true => [⟨['t', 'r', 'u', 'e'], some .boolean⟩]
  | .bool false => [⟨['f', 'a', 'l', 's', 'e'], some .boolean⟩]
  | .int n => [⟨writeInt n, some .number⟩]
  | .float x => [⟨writeFloat x, some .number⟩]
  | .str s => [⟨writeString false s, some .string⟩]
  | .arr items => itemMarks items
  | .obj members => memberMarks members

def itemMarks : List Json → List Token
  | [] => []
  | item :: items => marks item ++ itemMarks items

/-- A member shows its name together with the colon, then its value. -/
def memberMarks : List (String × Json) → List Token
  | [] => []
  | (name, value) :: members =>
    ⟨writeString false name ++ [':'], some .key⟩ :: (marks value ++ memberMarks members)

end

/-- A text that may follow a value, with its tagged tokens. -/
structure Follows (s : List Char) (marks : List Token) : Prop where
  stops : Stops s
  continues : Continues s marks

theorem follows_nil : Follows [] [] := ⟨stops_nil, continues_nil⟩

/-- A bracket or a comma may follow a value, whatever stands behind it. -/
theorem Shows.follows_cons {c : Char} {s : List Char} {marks : List Token} (hc : isLayout c = true)
    (hBlank : Text.isBlank c = false) (h : Shows (tokensFrom false s) marks) :
    Follows (c :: s) marks := by
  have hColon : c ≠ ':' := by
    rintro rfl
    exact absurd hc (by decide)
  exact ⟨⟨by simpa using hc, colonReach_of_ne hBlank hColon s⟩, h.continues_cons hc⟩

theorem lead_cases {depth : Nat} {c : Char} (hc : c ∈ Style.indented.lead depth) : c = '\n' ∨ c = ' ' := by
  simp only [Style.lead, Style.indented, List.mem_cons, List.mem_replicate] at hc
  exact hc.imp_right And.right

theorem isLayout_lead (depth : Nat) : ∀ c ∈ Style.indented.lead depth, isLayout c = true := by
  intro c hc
  rcases lead_cases hc with rfl | rfl <;> rfl

theorem isBlank_lead (depth : Nat) : ∀ c ∈ Style.indented.lead depth, Text.isBlank c = true := by
  intro c hc
  rcases lead_cases hc with rfl | rfl <;> decide

theorem afterComma_indented (depth : Nat) :
    Style.indented.afterComma depth = Style.indented.lead depth := rfl

/-- The line break before a closing bracket changes nothing. -/
theorem Follows.lead_append {s : List Char} {marks : List Token} (h : Follows s marks) (depth : Nat) :
    Follows (Style.indented.lead depth ++ s) marks := by
  refine ⟨stops_append (isLayout_lead depth) (isBlank_lead depth) h.stops, ?_⟩
  intro afterWord
  exact ((h.continues false).layout_append fun c hc =>
    isLayout_lead depth c (List.mem_cons_of_mem '\n' hc)).continues_cons rfl afterWord

/-- The text of a value shows what the walk through it gives, at every depth and before everything that
may follow it. -/
def Marked (v : Json) : Prop :=
  ∀ depth s after, Follows s after →
    Shows (tokensFrom false (writeAt .indented depth v ++ s)) (marks v ++ after)

theorem follows_writeItems (depth : Nat) {items : List Json} (hItems : ∀ item ∈ items, Marked item)
    {s : List Char} {after : List Token} (h : Follows s after) :
    Follows (writeItems .indented depth items ++ s) (itemMarks items ++ after) := by
  induction items with
  | nil => simpa only [writeItems, itemMarks, List.nil_append] using h
  | cons item items ih =>
      have hTail := ih fun v hv => hItems v (List.mem_cons_of_mem _ hv)
      have hItem := hItems item (by simp) depth _ _ hTail
      have hLine := hItem.layout_append (isLayout_lead depth)
      simpa only [writeItems, itemMarks, afterComma_indented, List.cons_append, List.append_assoc] using
        hLine.follows_cons (c := ',') rfl rfl

/-- A name with its colon, a blank, and the value that it names. -/
theorem shows_member (depth : Nat) (name : String) {value : Json} (hValue : Marked value)
    {s : List Char} {after : List Token} (h : Follows s after) :
    Shows (tokensFrom false (writeString Style.indented.asciiOnly name ++ (Style.indented.colon ++
        (writeAt .indented depth value ++ s))))
      (⟨writeString false name ++ [':'], some .key⟩ :: (marks value ++ after)) := by
  have hBlank : Continues (' ' :: (writeAt .indented depth value ++ s)) (marks value ++ after) :=
    (hValue depth s after h).continues_cons rfl
  exact hBlank.key_append false name

theorem follows_writeMembers (depth : Nat) {members : List (String × Json)}
    (hMembers : ∀ member ∈ members, Marked member.2) {s : List Char} {after : List Token}
    (h : Follows s after) :
    Follows (writeMembers .indented depth members ++ s) (memberMarks members ++ after) := by
  induction members with
  | nil => simpa only [writeMembers, memberMarks, List.nil_append] using h
  | cons member members ih =>
      obtain ⟨name, value⟩ := member
      have hTail := ih fun v hv => hMembers v (List.mem_cons_of_mem _ hv)
      have hMember := shows_member depth name (hMembers (name, value) (by simp)) hTail
      have hLine := hMember.layout_append (isLayout_lead depth)
      simpa only [writeMembers, memberMarks, afterComma_indented, List.cons_append, List.append_assoc] using
        hLine.follows_cons (c := ',') rfl rfl

/-- Every value shows its walk. The induction is on the value. -/
theorem HasFiniteNumbers.marked {v : Json} (hv : HasFiniteNumbers v) : Marked v := by
  induction hv with
  | null =>
      intro depth s after h
      exact h.continues.word_append h.stops (c := 'n') rfl
  | bool b =>
      intro depth s after h
      cases b with
      | true => exact h.continues.word_append h.stops (c := 't') rfl
      | false => exact h.continues.word_append h.stops (c := 'f') rfl
  | int n =>
      intro depth s after h
      exact h.continues.number_append (Json.writeInt_isNumberText n) h.stops
  | @float x hx =>
      intro depth s after h
      exact h.continues.number_append (Json.writeFloat_isNumberText hx) h.stops
  | str string =>
      intro depth s after h
      exact h.continues.string_append h.stops false string
  | @arr items each ih =>
      intro depth s after h
      have hClose := (h.continues false).follows_cons (c := ']') rfl rfl
      cases items with
      | nil =>
          exact (hClose.continues false).continues_cons (c := '[') rfl false
      | cons item items =>
          have hItems := follows_writeItems (depth + 1) (fun v hv => ih v (List.mem_cons_of_mem _ hv))
            (hClose.lead_append depth)
          have hItem := ih item (by simp) (depth + 1) _ _ hItems
          have hLine := (hItem.layout_append (isLayout_lead (depth + 1))).follows_cons (c := '[') rfl rfl
          simpa only [writeAt, marks, itemMarks, List.cons_append, List.append_assoc, List.nil_append] using
            hLine.continues false
  | @obj members each ih =>
      intro depth s after h
      have hClose := (h.continues false).follows_cons (c := '\x7d') rfl rfl
      cases members with
      | nil =>
          exact (hClose.continues false).continues_cons (c := '\x7b') rfl false
      | cons member members =>
          obtain ⟨name, value⟩ := member
          have hMembers := follows_writeMembers (depth + 1) (fun v hv => ih v (List.mem_cons_of_mem _ hv))
            (hClose.lead_append depth)
          have hMember := shows_member (depth + 1) name (ih (name, value) (by simp)) hMembers
          have hLine := (hMember.layout_append (isLayout_lead (depth + 1))).follows_cons (c := '\x7b') rfl rfl
          simpa only [writeAt, marks, memberMarks, List.cons_append, List.append_assoc, List.nil_append] using
            hLine.continues false

/-- The tagged tokens of a written value are its walk, in order; all between them is layout. An integer is written
here however many digits it has; a machine that writes at most `Text.maxIntegerDigits` of them has no text for a value
with a longer one, and the same text for every other. -/
theorem tokens_dump {v : Json} (hv : HasFiniteNumbers v) :
    (tokens (Json.dump v).toList).filter (fun token => token.kind.isSome) = marks v ∧
      ∀ token ∈ tokens (Json.dump v).toList, token.kind = none →
        ∀ c ∈ token.text,
          c = ' ' ∨ c = '\n' ∨ c = '\x7b' ∨ c = '\x7d' ∨ c = '[' ∨ c = ']' ∨ c = ',' := by
  have hShows := hv.marked 0 [] [] follows_nil
  rw [List.append_nil, List.append_nil] at hShows
  rw [Json.dump, Json.write, String.toList_ofList]
  refine ⟨hShows.tagged, ?_⟩
  intro token hToken hKind c hc
  exact isLayout_iff.mp (hShows.plain token hToken hKind c hc)

/-- Neither the quote and colon inside the name nor the words inside the string are taken for tokens. -/
theorem tokens_dump_record :
    (tokens (Json.dump (.obj [("a\":", .arr [.str "\\true, 1:", .int (-20), .float .zero]),
        ("ok", .bool true), ("ok", .obj [("", .null)])])).toList).filter (fun token => token.kind.isSome) =
      [⟨"\"a\\\":\":".toList, some .key⟩, ⟨"\"\\\\true, 1:\"".toList, some .string⟩,
        ⟨"-20".toList, some .number⟩, ⟨"0.0".toList, some .number⟩, ⟨"\"ok\":".toList, some .key⟩,
        ⟨"true".toList, some .boolean⟩, ⟨"\"ok\":".toList, some .key⟩, ⟨"\"\":".toList, some .key⟩,
        ⟨"null".toList, some .null⟩] := by
  have hItems : HasFiniteNumbers (.arr [.str "\\true, 1:", .int (-20), .float .zero]) := by
    refine .arr ?_
    simp only [List.forall_mem_cons]
    exact ⟨.str _, .int _, .float rfl, by simp⟩
  have hInner : HasFiniteNumbers (.obj [("", .null)]) := .obj (by simpa using .null)
  have hRecord : HasFiniteNumbers (.obj [("a\":", .arr [.str "\\true, 1:", .int (-20), .float .zero]),
      ("ok", .bool true), ("ok", .obj [("", .null)])]) := by
    refine .obj ?_
    simp only [List.forall_mem_cons]
    exact ⟨hItems, .bool true, hInner, by simp⟩
  exact (tokens_dump hRecord).1

end QueryPlayground.Highlight
