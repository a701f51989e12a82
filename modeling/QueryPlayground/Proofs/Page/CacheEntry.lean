import QueryPlayground.Engine.Store
import QueryPlayground.Page.Model
import QueryPlayground.Proofs.Json.RoundTrip
import QueryPlayground.Proofs.Page.Markup
import QueryPlayground.Proofs.Page.Tokens

/-! What a cache entry shows. The cache reads the stored text, the value is written anew, highlighted
and put into markup; without the markup the user sees the indented text of the very value that was
stored. -/
namespace QueryPlayground

open Html (withoutTags escape decodeEntities shownText)

/-- A tag written out in full is dropped. -/
theorem Html.withoutTags_tag_append {tag : List Char} (body : List Char) (hTag : tag = '<' :: (body ++ ['>']))
    (hBody : '>' ∉ body) (rest : Html) : withoutTags (tag ++ rest) = withoutTags rest := by
  have hDrop := withoutTags_tag hBody rest
  rw [hTag]
  simpa using hDrop

namespace Highlight

theorem withoutTags_spanOpen (kind : Kind) (rest : Html) :
    withoutTags ("<span class=\"".toList ++ kind.cssClass.toList ++ "\">".toList ++ rest) = withoutTags rest :=
  Html.withoutTags_tag_append ("span class=\"".toList ++ kind.cssClass.toList ++ ['"'])
    (by cases kind <;> rfl) (by cases kind <;> decide) rest

theorem withoutTags_spanClose (rest : Html) : withoutTags ("</span>".toList ++ rest) = withoutTags rest :=
  Html.withoutTags_tag_append "/span".toList rfl (by decide) rest

/-- A token keeps its escaped text when the tags are dropped, whether it stands in a span or not. -/
theorem withoutTags_toHtml (token : Token) (rest : Html) :
    withoutTags (token.toHtml ++ rest) = escape token.text ++ withoutTags rest := by
  have hText := Html.bracket_notMem_escape token.text
  obtain ⟨text, kind⟩ := token
  cases kind with
  | none => exact Html.withoutTags_append hText rest
  | some kind =>
      have hOpen := withoutTags_spanOpen kind (escape text ++ ("</span>".toList ++ rest))
      rw [Html.withoutTags_append hText, withoutTags_spanClose] at hOpen
      rw [← hOpen]
      simp only [Token.toHtml, List.append_assoc]

theorem withoutTags_tokens (tokens : List Token) (rest : Html) :
    withoutTags (tokens.flatMap Token.toHtml ++ rest) =
      escape (tokens.flatMap Token.text) ++ withoutTags rest := by
  induction tokens with
  | nil => rfl
  | cons token tokens ih =>
      rw [List.flatMap_cons, List.append_assoc, withoutTags_toHtml, ih, List.flatMap_cons,
        Html.escape_append, List.append_assoc]

/-- Highlighting adds tags and nothing else. -/
theorem withoutTags_highlight (text : List Char) (rest : Html) :
    withoutTags (highlight text ++ rest) = escape text ++ withoutTags rest := by
  rw [highlight, withoutTags_tokens, tokens_flatMap_text]

end Highlight

/-- A value on display shows its indented text, whatever the text holds. -/
theorem Page.shownText_jsonView (v : Json) : shownText (Page.jsonView v) = (Json.dump v).toList := by
  have hOpen (rest : Html) : withoutTags ("<div class=\"json-view\">".toList ++ rest) = withoutTags rest :=
    Html.withoutTags_tag_append "div class=\"json-view\"".toList rfl (by decide) rest
  have hClose : withoutTags ("</div>".toList ++ []) = withoutTags [] :=
    Html.withoutTags_tag_append "/div".toList rfl (by decide) []
  have hView : withoutTags (Page.jsonView v) = escape (Json.writeAt .indented 0 v) := by
    rw [List.append_nil, Html.withoutTags_nil] at hClose
    unfold Page.jsonView
    rw [List.append_assoc, hOpen, Highlight.withoutTags_highlight, hClose, List.append_nil]
  rw [shownText, hView, Html.decodeEntities_escape, Json.dump, Json.write, String.toList_ofList]

namespace CacheStore

theorem execute_of_lookup {store : CacheStore} {query key text : String} {v : Json}
    (hQuery : Text.trim query = key) (hSet : isSet key = false) (hEntry : store.entries.lookup key = some text)
    (hRead : Json.read text = .ok v) : store.execute query = .ok (.cacheHit v) := by
  simp [execute, statement, hQuery, hSet, hEntry, hRead, Except.map, Except.mapError]

/-- What the user sees of an entry is what is stored, in the short form of the seeds or in the indented
form: the store gives the value, its content shows the indented text, and that text reads back. -/
theorem execute_shows_entry {store : CacheStore} {key : String} {v : Json} (hTrim : Text.trim key = key)
    (hSet : isSet key = false) (hStorable : v.Storable)
    (hEntry : store.entries.lookup key = some (Json.write .spaced v) ∨
      store.entries.lookup key = some (Json.dump v)) (elapsed : Binary64) (sequence : Int) :
    store.execute key = .ok (.cacheHit v) ∧
      (∃ model, Page.render (.cacheHit v) elapsed sequence = .ok model ∧
        decodeEntities (withoutTags model.content) = (Json.dump v).toList) ∧
      Json.read (Json.dump v) = .ok v := by
  have hSpaced := hStorable.read_write Json.Style.spaced_isReadable
  have hDump : Json.read (Json.dump v) = .ok v := hStorable.read_write Json.Style.indented_isReadable
  refine ⟨?_, ⟨_, rfl, Page.shownText_jsonView v⟩, hDump⟩
  rcases hEntry with hEntry | hEntry
  · exact execute_of_lookup hTrim hSet hEntry hSpaced
  · exact execute_of_lookup hTrim hSet hEntry hDump

/-- An entry with quotes, markup, control characters and a character beyond sixteen bits. -/
theorem execute_shows_rare_entry :
    (CacheStore.mk [("k", "1"), ("rare", Json.write .spaced
        (.obj [("<b>", .arr [.str "\"\\&\x01\t😀", .int (-7), .null]),
          ("\x7fé", .bool false)]))]).execute "rare" =
      .ok (.cacheHit (.obj [("<b>", .arr [.str "\"\\&\x01\t😀", .int (-7), .null]),
        ("\x7fé", .bool false)])) := by
  have hItems : Json.Storable (.arr [.str "\"\\&\x01\t😀", .int (-7), .null]) := by
    refine .arr ?_
    simp only [List.forall_mem_cons]
    exact ⟨.str _, .int (Json.isWritable_of_lt (by decide)), .null, by simp⟩
  have hRecord : Json.Storable
      (.obj [("<b>", .arr [.str "\"\\&\x01\t😀", .int (-7), .null]), ("\x7fé", .bool false)]) := by
    refine .obj (by decide) ?_
    simp only [List.forall_mem_cons]
    exact ⟨hItems, .bool false, by simp⟩
  exact (execute_shows_entry (by decide) (by decide) hRecord (Or.inl rfl) .zero 1).1

end CacheStore
end QueryPlayground
