import QueryPlayground.Page.Highlight

/-! Tokens of a text. The tokens join to the text whatever it is. Characters of layout never start a
tagged token, and a literal whose reach is known becomes a token as a whole; with these two steps the
tagged tokens of a text are found from its front to its end. -/
namespace QueryPlayground.Highlight

theorem consPlain_flatMap_text (c : Char) (tokens : List Token) :
    (consPlain c tokens).flatMap Token.text = c :: tokens.flatMap Token.text := by
  cases tokens with
  | nil => rfl
  | cons token rest =>
      obtain ⟨text, kind⟩ := token
      cases kind <;> rfl

/-- Scanning loses nothing and adds nothing. -/
theorem tokensFrom_flatMap_text (afterWord : Bool) (s : List Char) :
    (tokensFrom afterWord s).flatMap Token.text = s := by
  induction hLength : s.length using Nat.strongRecOn generalizing afterWord s with
  | _ n ih =>
      cases s with
      | nil => simp [tokensFrom]
      | cons c rest =>
          rw [tokensFrom]
          split
          next n' hReach =>
              have hRest := ih (rest.drop n').length (by simp at hLength ⊢; omega)
                (endsWord (c :: rest.take n')) (rest.drop n') rfl
              rw [List.flatMap_cons, hRest, List.cons_append, List.take_append_drop]
          next hReach =>
              rw [consPlain_flatMap_text, ih rest.length (by simp at hLength; omega) _ rest rfl]

theorem tokens_flatMap_text (s : List Char) : (tokens s).flatMap Token.text = s :=
  tokensFrom_flatMap_text false s

/-- The characters that written values put between their literals. -/
def isLayout (c : Char) : Bool :=
  c == ' ' || c == '\n' || c == '\x7b' || c == '\x7d' || c == '[' || c == ']' || c == ','

theorem isLayout_iff {c : Char} : isLayout c = true ↔
    c = ' ' ∨ c = '\n' ∨ c = '\x7b' ∨ c = '\x7d' ∨ c = '[' ∨ c = ']' ∨ c = ',' := by
  simp [isLayout, or_assoc]

/-- The tagged tokens are the given ones, and all other tokens consist of layout. -/
structure Shows (tokens marks : List Token) : Prop where
  tagged : tokens.filter (fun token => token.kind.isSome) = marks
  plain : ∀ token ∈ tokens, token.kind = none → ∀ c ∈ token.text, isLayout c = true

theorem shows_nil : Shows [] [] := ⟨rfl, by simp⟩

theorem Shows.consPlain {tokens marks : List Token} {c : Char} (hc : isLayout c = true)
    (h : Shows tokens marks) : Shows (consPlain c tokens) marks := by
  obtain ⟨hTagged, hPlain⟩ := h
  cases tokens with
  | nil =>
      refine ⟨hTagged, ?_⟩
      intro token hToken _ d hd
      rw [List.mem_singleton.mp hToken] at hd
      rwa [List.mem_singleton.mp hd]
  | cons token rest =>
      obtain ⟨text, kind⟩ := token
      cases kind with
      | none =>
          refine ⟨hTagged, ?_⟩
          intro token hToken hKind d hd
          rcases List.mem_cons.mp hToken with rfl | hToken
          · rcases List.mem_cons.mp hd with rfl | hd
            · exact hc
            · exact hPlain ⟨text, none⟩ (by simp) rfl d hd
          · exact hPlain token (List.mem_cons_of_mem _ hToken) hKind d hd
      | some kind =>
          refine ⟨hTagged, ?_⟩
          intro token hToken hKind d hd
          rcases List.mem_cons.mp hToken with rfl | hToken
          · rwa [List.mem_singleton.mp hd]
          · exact hPlain token hToken hKind d hd

theorem Shows.cons_tagged {tokens marks : List Token} (text : List Char) (kind : Kind)
    (h : Shows tokens marks) : Shows (⟨text, some kind⟩ :: tokens) (⟨text, some kind⟩ :: marks) := by
  obtain ⟨hTagged, hPlain⟩ := h
  refine ⟨by simp [hTagged], ?_⟩
  intro token hToken hKind
  rcases List.mem_cons.mp hToken with rfl | hToken
  · cases hKind
  · exact hPlain token hToken hKind

/-- No tagged token starts with a character of layout. -/
theorem tagReach?_layout (afterWord : Bool) {c : Char} (hc : isLayout c = true) (rest : List Char) :
    tagReach? afterWord c rest = none := by
  rcases isLayout_iff.mp hc with rfl | rfl | rfl | rfl | rfl | rfl | rfl <;> rfl

theorem isWord_layout {c : Char} (hc : isLayout c = true) : Text.isWord c = false := by
  rcases isLayout_iff.mp hc with rfl | rfl | rfl | rfl | rfl | rfl | rfl <;> rfl

/-- The tagged tokens of a text are the given ones, whatever character stands before it. -/
def Continues (s : List Char) (marks : List Token) : Prop :=
  ∀ afterWord, Shows (tokensFrom afterWord s) marks

theorem continues_nil : Continues [] [] := fun _ => by simpa [tokensFrom] using shows_nil

/-- One character of layout cuts a text off from all that stands before it. -/
theorem Shows.continues_cons {c : Char} (hc : isLayout c = true) {s : List Char} {marks : List Token}
    (h : Shows (tokensFrom false s) marks) : Continues (c :: s) marks := by
  intro afterWord
  rw [tokensFrom, tagReach?_layout afterWord hc, isWord_layout hc]
  exact h.consPlain hc

/-- Layout in front of a text adds no tagged token. -/
theorem Shows.layout_append {gap s : List Char} {marks : List Token}
    (hGap : ∀ c ∈ gap, isLayout c = true) (h : Shows (tokensFrom false s) marks) :
    Shows (tokensFrom false (gap ++ s)) marks := by
  induction gap with
  | nil => exact h
  | cons c gap ih =>
      have hTail := ih fun d hd => hGap d (List.mem_cons_of_mem _ hd)
      exact hTail.continues_cons (hGap c (by simp)) false

/-- In front of `s` a text is one token of a kind. -/
def IsToken (text : List Char) (kind : Kind) (s : List Char) : Prop :=
  ∃ afterWord, tokensFrom false (text ++ s) = ⟨text, some kind⟩ :: tokensFrom afterWord s

/-- A literal that reaches up to its end is one token. -/
theorem isToken_of_reach {c : Char} {text s : List Char}
    (hReach : tagReach? false c (text ++ s) = some text.length) :
    IsToken (c :: text) (classify (c :: text)) s := by
  refine ⟨endsWord (c :: text), ?_⟩
  rw [List.cons_append, tokensFrom, hReach]
  simp only [List.take_left, List.drop_left]

theorem Continues.token_append {text s : List Char} {kind : Kind} {marks : List Token}
    (hToken : IsToken text kind s) (h : Continues s marks) :
    Shows (tokensFrom false (text ++ s)) (⟨text, some kind⟩ :: marks) := by
  obtain ⟨afterWord, hTokens⟩ := hToken
  rw [hTokens]
  exact (h afterWord).cons_tagged text kind

end QueryPlayground.Highlight
