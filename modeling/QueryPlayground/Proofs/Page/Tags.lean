import QueryPlayground.Page.Model
import QueryPlayground.Proofs.Page.Kinds
import QueryPlayground.Proofs.Page.Markup

/-! The tags of a fragment. Every part of a page that is put together from markup and escaped text has
the tags of its markup: the text adds none and changes none, and no opening bracket is left over that
could begin another one. -/
namespace QueryPlayground

namespace Html

/-- The tags of a fragment in order, each from its opening bracket to the next closing one. -/
def tags : Html → List Html
  | [] => []
  | c :: rest =>
    if c = '<' ∧ '>' ∈ rest then ('<' :: (rest.takeWhile (· != '>') ++ ['>'])) :: tags rest
    else tags rest

/-- The tag with the given text between its brackets. -/
def tag (body : String) : Html := '<' :: (body.toList ++ ['>'])

/-- Whether every opening bracket has a closing one behind it. -/
def isClosed : Html → Bool
  | [] => true
  | c :: rest => (c != '<' || rest.contains '>') && isClosed rest

/-- A fragment whose tags are the given ones, none of which is left open. -/
structure HasTags (html : Html) (marks : List Html) : Prop where
  closed : isClosed html = true
  tags : html.tags = marks

theorem hasTags_nil : HasTags [] [] := ⟨rfl, rfl⟩

/-- Text without an opening bracket has no tags. -/
theorem hasTags_of_notMem {text : List Char} (h : '<' ∉ text) : HasTags text [] := by
  induction text with
  | nil => exact hasTags_nil
  | cons c text ih =>
      simp only [List.mem_cons, not_or] at h
      obtain ⟨hClosed, hTags⟩ := ih h.2
      refine ⟨?_, ?_⟩
      · simp [isClosed, hClosed, Ne.symm h.1]
      · rw [Html.tags, if_neg (fun hOpen => h.1 hOpen.1.symm), hTags]

theorem hasTags_escape (text : List Char) : HasTags (escape text) [] :=
  hasTags_of_notMem (bracket_notMem_escape text)

theorem takeWhile_append_of_mem {body : List Char} (h : '>' ∈ body) (rest : List Char) :
    (body ++ rest).takeWhile (· != '>') = body.takeWhile (· != '>') := by
  obtain ⟨before, after, rfl, hBefore⟩ := List.eq_append_cons_of_mem h
  rw [List.append_assoc, List.cons_append, takeWhile_append_stop hBefore,
    takeWhile_append_stop hBefore]

/-- Fragments next to each other keep their tags, since none of them is left open. -/
theorem HasTags.append {html more : Html} {marks others : List Html} (h : HasTags html marks)
    (hMore : HasTags more others) : HasTags (html ++ more) (marks ++ others) := by
  induction html generalizing marks with
  | nil =>
      obtain ⟨-, rfl⟩ := h
      exact hMore
  | cons c html ih =>
      obtain ⟨hClosed, rfl⟩ := h
      simp only [isClosed, Bool.and_eq_true, Bool.or_eq_true, bne_iff_ne, ne_eq,
        List.contains_iff_mem] at hClosed
      obtain ⟨hHead, hTail⟩ := hClosed
      obtain ⟨hRest, hTags⟩ := ih ⟨hTail, rfl⟩
      by_cases hOpen : c = '<'
      · have hMem : '>' ∈ html := hHead.resolve_left (not_not_intro hOpen)
        refine ⟨?_, ?_⟩
        · simp [isClosed, hRest, hMem]
        · simp only [List.cons_append, Html.tags, hOpen, hMem, List.mem_append, true_or, and_self,
            if_true, takeWhile_append_of_mem hMem, hTags]
      · refine ⟨?_, ?_⟩
        · simp [isClosed, hRest, hOpen]
        · simp only [List.cons_append, Html.tags, hOpen, false_and, if_false, hTags]

theorem HasTags.flatMap {α : Type} {items : List α} {part : α → Html} {marks : α → List Html}
    (h : ∀ item ∈ items, HasTags (part item) (marks item)) :
    HasTags (items.flatMap part) (items.flatMap marks) := by
  induction items with
  | nil => exact hasTags_nil
  | cons item items ih =>
      exact (h item (by simp)).append (ih fun other hOther => h other (List.mem_cons_of_mem _ hOther))

/-- A line on top of others adds its tags in front. -/
theorem HasTags.lines_cons {line : Html} {rest : List Html} {marks others : List Html}
    (h : HasTags line marks) (hRest : HasTags (lines rest) others) :
    HasTags (lines (line :: rest)) (marks ++ others) := by
  cases rest with
  | nil =>
      obtain ⟨-, rfl⟩ := hRest
      simpa [lines, Html.tags] using h
  | cons next rest =>
      have hBreak : HasTags ['\n'] [] := ⟨rfl, rfl⟩
      exact h.append (hBreak.append hRest)

theorem HasTags.lines_map_append {α : Type} {items : List α} {part : α → Html} {marks : α → List Html}
    (h : ∀ item ∈ items, HasTags (part item) (marks item)) {rest : List Html} {others : List Html}
    (hRest : HasTags (lines rest) others) :
    HasTags (lines (items.map part ++ rest)) (items.flatMap marks ++ others) := by
  induction items with
  | nil => exact hRest
  | cons item items ih =>
      have hTail := ih fun other hOther => h other (List.mem_cons_of_mem _ hOther)
      rw [List.flatMap_cons, List.append_assoc]
      exact (h item (by simp)).lines_cons hTail

/-- An opening bracket in a fragment begins one of its tags. -/
theorem HasTags.exists_prefix {html : Html} {marks : List Html} (h : HasTags html marks)
    {before after : Html} (hHtml : html = before ++ '<' :: after) :
    ∃ mark ∈ marks, mark <+: '<' :: after := by
  obtain ⟨hClosed, rfl⟩ := h
  subst hHtml
  induction before with
  | nil =>
      simp only [List.nil_append, isClosed, bne_self_eq_false, Bool.false_or, Bool.and_eq_true,
        List.contains_iff_mem] at hClosed
      refine ⟨'<' :: (after.takeWhile (· != '>') ++ ['>']), ?_, ?_⟩
      · simp [Html.tags, hClosed.1]
      · obtain ⟨body, rest, rfl, hBody⟩ := List.eq_append_cons_of_mem hClosed.1
        rw [takeWhile_append_stop hBody]
        exact ⟨rest, by simp⟩
  | cons c before ih =>
      simp only [List.cons_append, isClosed, Bool.and_eq_true] at hClosed
      obtain ⟨mark, hMark, hPrefix⟩ := ih hClosed.2
      refine ⟨mark, ?_, hPrefix⟩
      simp only [List.cons_append, Html.tags]
      split
      · exact List.mem_cons_of_mem _ hMark
      · exact hMark

end Html

open Html (HasTags hasTags_escape tag)

namespace Highlight

/-- The tags around a token of a kind. -/
def spanTags (kind : Kind) : List Html := [tag ("span class=\"" ++ kind.cssClass ++ "\""), tag "/span"]

theorem hasTags_toHtml (token : Token) : HasTags token.toHtml (token.kind.elim [] spanTags) := by
  obtain ⟨text, kind⟩ := token
  cases kind with
  | none => exact hasTags_escape text
  | some kind =>
      have hOpen : HasTags ("<span class=\"".toList ++ kind.cssClass.toList ++ "\">".toList)
          [tag ("span class=\"" ++ kind.cssClass ++ "\"")] := by
        cases kind <;> exact ⟨rfl, rfl⟩
      have hClose : HasTags "</span>".toList [tag "/span"] := ⟨rfl, rfl⟩
      exact (hOpen.append (hasTags_escape text)).append hClose

/-- A highlighted text has the tags around its tokens, in order. -/
theorem hasTags_highlight (text : List Char) :
    HasTags (highlight text) ((kindsOf (tokens text)).flatMap spanTags) := by
  have hTokens : HasTags (highlight text) ((tokens text).flatMap fun token => token.kind.elim [] spanTags) :=
    HasTags.flatMap fun token _ => hasTags_toHtml token
  rwa [flatMap_kindsOf] at hTokens

end Highlight

namespace Page

/-! ### The views -/

/-- The tags of a highlighted value. -/
def jsonTags (v : Json) : List Html :=
  tag "div class=\"json-view\"" :: ((Highlight.kinds v).flatMap Highlight.spanTags ++ [tag "/div"])

theorem hasTags_jsonView (v : Json) : HasTags (jsonView v) (jsonTags v) := by
  have hOpen : HasTags "<div class=\"json-view\">".toList [tag "div class=\"json-view\""] := ⟨rfl, rfl⟩
  have hClose : HasTags "</div>".toList [tag "/div"] := ⟨rfl, rfl⟩
  have hText := Highlight.hasTags_highlight (Json.writeAt .indented 0 v)
  rw [Highlight.kindsOf_tokens_writeAt] at hText
  exact (hOpen.append hText).append hClose

theorem flatMap_const {α β : Type} (items : List α) (marks : List β) :
    items.flatMap (fun _ => marks) = (List.replicate items.length marks).flatten := by
  rw [List.flatMap_def, List.map_const']

/-- The tags of a row of so many cells. -/
def rowTags (columns : Nat) : List Html :=
  tag "tr" :: ((List.replicate columns [tag "td", tag "/td"]).flatten ++ [tag "/tr"])

/-- The tags of a table of so many columns and rows. -/
def tableTags (columns rows : Nat) : List Html :=
  if rows = 0 then [tag "p", tag "/p"]
  else
    [tag "div class=\"table-view\"", tag "table"] ++
      (tag "thead" :: tag "tr" :: ((List.replicate columns [tag "th", tag "/th"]).flatten ++
        [tag "/tr", tag "/thead"])) ++
      [tag "tbody"] ++ (List.replicate rows (rowTags columns)).flatten ++
      [tag "/tbody", tag "/table", tag "/div"]

theorem hasTags_headerCell (column : String) : HasTags (headerCell column) [tag "th", tag "/th"] := by
  have hOpen : HasTags "<th>".toList [tag "th"] := ⟨rfl, rfl⟩
  have hClose : HasTags "</th>".toList [tag "/th"] := ⟨rfl, rfl⟩
  exact (hOpen.append (hasTags_escape _)).append hClose

theorem hasTags_bodyCell (cell : List Char) : HasTags (bodyCell cell) [tag "td", tag "/td"] := by
  have hOpen : HasTags "<td>".toList [tag "td"] := ⟨rfl, rfl⟩
  have hClose : HasTags "</td>".toList [tag "/td"] := ⟨rfl, rfl⟩
  exact (hOpen.append (hasTags_escape _)).append hClose

theorem hasTags_bodyRow (cells : List (List Char)) : HasTags (bodyRow cells) (rowTags cells.length) := by
  have hOpen : HasTags "<tr>".toList [tag "tr"] := ⟨rfl, rfl⟩
  have hClose : HasTags "</tr>".toList [tag "/tr"] := ⟨rfl, rfl⟩
  have hCells : HasTags (cells.flatMap bodyCell) (cells.flatMap fun _ => [tag "td", tag "/td"]) :=
    HasTags.flatMap fun cell _ => hasTags_bodyCell cell
  rw [flatMap_const] at hCells
  exact (hOpen.append hCells).append hClose

theorem length_alignRow (width : Nat) (row : List Json) : (alignRow width row).length = width := by
  simp only [alignRow, List.length_append, List.length_map, List.length_take, List.length_replicate]
  omega

theorem hasTags_tableView (columns : List String) (rows : List (List Json)) :
    HasTags (tableView columns rows) (tableTags columns.length rows.length) := by
  cases rows with
  | nil => exact ⟨rfl, rfl⟩
  | cons row rows =>
      have hFront : HasTags "<div class=\"table-view\"><table>".toList
          [tag "div class=\"table-view\"", tag "table"] := ⟨rfl, rfl⟩
      have hHeadOpen : HasTags "<thead><tr>".toList [tag "thead", tag "tr"] := ⟨rfl, rfl⟩
      have hHeadClose : HasTags "</tr></thead>".toList [tag "/tr", tag "/thead"] := ⟨rfl, rfl⟩
      have hBody : HasTags "<tbody>".toList [tag "tbody"] := ⟨rfl, rfl⟩
      have hBack : HasTags (Html.lines ["</tbody></table></div>".toList])
          [tag "/tbody", tag "/table", tag "/div"] := ⟨rfl, rfl⟩
      have hHeaders : HasTags (columns.flatMap headerCell)
          (columns.flatMap fun _ => [tag "th", tag "/th"]) :=
        HasTags.flatMap fun column _ => hasTags_headerCell column
      have hRows : HasTags
          (Html.lines ((row :: rows).map (fun cells => bodyRow (alignRow columns.length cells)) ++
            ["</tbody></table></div>".toList]))
          ((row :: rows).flatMap (fun _ => rowTags columns.length) ++
            [tag "/tbody", tag "/table", tag "/div"]) := by
        refine HasTags.lines_map_append (fun cells _ => ?_) hBack
        have hRow := hasTags_bodyRow (alignRow columns.length cells)
        rwa [length_alignRow] at hRow
      rw [flatMap_const] at hHeaders hRows
      have hHead := (hHeadOpen.append hHeaders).append hHeadClose
      have hTable := hFront.lines_cons (hHead.lines_cons (hBody.lines_cons hRows))
      simpa [tableView, tableTags] using hTable

/-- The tags of a list of so many keys. -/
def keyListTags (keys : Nat) : List Html :=
  tag "div class=\"json-view\"" ::
    ((List.replicate keys [tag "div", tag "/div"]).flatten ++ [tag "/div"])

theorem hasTags_keyListView (keys : List String) : HasTags (keyListView keys) (keyListTags keys.length) := by
  have hOpen : HasTags "<div class=\"json-view\">".toList [tag "div class=\"json-view\""] := ⟨rfl, rfl⟩
  have hClose : HasTags "</div>".toList [tag "/div"] := ⟨rfl, rfl⟩
  have hKeys : HasTags (keys.flatMap keyLine) (keys.flatMap fun _ => [tag "div", tag "/div"]) := by
    refine HasTags.flatMap fun key _ => ?_
    have hLineOpen : HasTags "<div>\"".toList [tag "div"] := ⟨rfl, rfl⟩
    have hLineClose : HasTags "\"</div>".toList [tag "/div"] := ⟨rfl, rfl⟩
    exact (hLineOpen.append (hasTags_escape _)).append hLineClose
  rw [flatMap_const] at hKeys
  exact (hOpen.append hKeys).append hClose

def scalarTags : List Html :=
  [tag "div class=\"json-view\"", tag "span class=\"json-number\"", tag "/span", tag "/div"]

theorem hasTags_scalarView (figure : String) : HasTags (scalarView figure) scalarTags := by
  have hOpen : HasTags "<div class=\"json-view\"><span class=\"json-number\">".toList
      [tag "div class=\"json-view\"", tag "span class=\"json-number\""] := ⟨rfl, rfl⟩
  have hClose : HasTags "</span></div>".toList [tag "/span", tag "/div"] := ⟨rfl, rfl⟩
  exact (hOpen.append (hasTags_escape _)).append hClose

def successTags : List Html :=
  [tag "div class=\"status-line status-ok\" style=\"color: #10b981; font-weight: 600;\"", tag "/div"]

theorem hasTags_successLine (message : String) : HasTags (successLine message) successTags := by
  have hOpen : HasTags
      "<div class=\"status-line status-ok\" style=\"color: #10b981; font-weight: 600;\">✅ ".toList
      [tag "div class=\"status-line status-ok\" style=\"color: #10b981; font-weight: 600;\""] := by
    constructor <;> simp [Html.isClosed, Html.tags, tag]
  have hClose : HasTags "</div>".toList [tag "/div"] := ⟨rfl, rfl⟩
  exact (hOpen.append (hasTags_escape _)).append hClose

def failureTags : List Html :=
  [tag "div class=\"status-line status-error\" style=\"color: #ef4444; font-weight: 600;\"", tag "/div"]

theorem hasTags_failureLine (message : String) : HasTags (failureLine message) failureTags := by
  have hOpen : HasTags
      "<div class=\"status-line status-error\" style=\"color: #ef4444; font-weight: 600;\">❌ Error: ".toList
      [tag "div class=\"status-line status-error\" style=\"color: #ef4444; font-weight: 600;\""] := by
    constructor <;> simp [Html.isClosed, Html.tags, tag]
  have hClose : HasTags "</div>".toList [tag "/div"] := ⟨rfl, rfl⟩
  exact (hOpen.append (hasTags_escape _)).append hClose

/-- The tags of a panel of so many entries. -/
def panelTags (entries : Nat) : List Html :=
  [tag "h4", tag "/h4"] ++
    (List.replicate entries [tag "p", tag "strong", tag "/strong", tag "/p"]).flatten

theorem hasTags_panel (panel : Panel) : HasTags panel.toHtml (panelTags panel.entries.length) := by
  have hHeadOpen : HasTags "<h4>".toList [tag "h4"] := ⟨rfl, rfl⟩
  have hHeadClose : HasTags "</h4>".toList [tag "/h4"] := ⟨rfl, rfl⟩
  have hHead : HasTags ("<h4>".toList ++ Html.escape panel.heading.toList ++ "</h4>".toList)
      [tag "h4", tag "/h4"] := (hHeadOpen.append (hasTags_escape _)).append hHeadClose
  have hEntry (entry : String × String) :
      HasTags (entryLine entry) [tag "p", tag "strong", tag "/strong", tag "/p"] := by
    have hOpen : HasTags "<p><strong>".toList [tag "p", tag "strong"] := ⟨rfl, rfl⟩
    have hColon : HasTags ":</strong> ".toList [tag "/strong"] := ⟨rfl, rfl⟩
    have hClose : HasTags "</p>".toList [tag "/p"] := ⟨rfl, rfl⟩
    exact (((hOpen.append (hasTags_escape _)).append hColon).append (hasTags_escape _)).append hClose
  have hEntries : HasTags (Html.lines (panel.entries.map entryLine ++ []))
      (panel.entries.flatMap (fun _ => [tag "p", tag "strong", tag "/strong", tag "/p"]) ++ []) :=
    HasTags.lines_map_append (fun entry _ => hEntry entry) Html.hasTags_nil
  rw [List.append_nil, List.append_nil, flatMap_const] at hEntries
  exact hHead.lines_cons hEntries

end Page
end QueryPlayground
