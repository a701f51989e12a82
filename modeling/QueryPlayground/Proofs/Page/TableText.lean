import QueryPlayground.Engine.Payload
import QueryPlayground.Proofs.Page.Tags

/-! What a table holds can be read off its markup. The texts between the tags of its cells, decoded, are
the names of the columns and the cells of each row, one for each column: no cell can end early or run on,
since escaped text holds no tag. -/
namespace QueryPlayground

namespace Html

/-- What stands in front of the first occurrence of a mark. -/
def before? (mark : List Char) : List Char → Option (List Char)
  | [] => none
  | c :: rest => if mark.isPrefixOf (c :: rest) then some [] else (before? mark rest).map (c :: ·)

/-- The texts from each opening mark to the next closing one. -/
def between (opening closing : List Char) : Html → List Html
  | [] => []
  | c :: rest =>
    let texts := between opening closing rest
    if opening.isPrefixOf (c :: rest) then
      match before? closing ((c :: rest).drop opening.length) with
      | some text => text :: texts
      | none => texts
    else texts

/-- The rows in the body of a table, each as what stands between its tags. -/
def bodyRows (html : Html) : List Html :=
  (between (tag "tbody") (tag "/tbody") html).flatMap (between (tag "tr") (tag "/tr"))

/-- The body of a tag holds no brackets of its own. -/
def IsTagBody (body : String) : Prop := '<' ∉ body.toList ∧ '>' ∉ body.toList

instance (body : String) : Decidable (IsTagBody body) := inferInstanceAs (Decidable (_ ∧ _))

/-- A tag written out is the only one of itself. -/
theorem hasTags_tag {body : String} (hBody : IsTagBody body) : HasTags (tag body) [tag body] := by
  have hRest : HasTags (body.toList ++ ['>']) [] := by
    refine hasTags_of_notMem ?_
    simp [hBody.1]
  obtain ⟨hClosed, hTags⟩ := hRest
  refine ⟨?_, ?_⟩
  · simp [tag, isClosed, hClosed]
  · rw [tag, Html.tags, if_pos ⟨rfl, by simp⟩, hTags, takeWhile_append_stop hBody.2]

@[simp]
theorem tag_inj {body other : String} : tag body = tag other ↔ body = other := by
  simp [tag, String.ext_iff]

theorem HasTags.tail {c : Char} {html : Html} {marks : List Html} (h : HasTags (c :: html) marks) :
    HasTags html html.tags ∧ html.tags ⊆ marks := by
  obtain ⟨hClosed, rfl⟩ := h
  simp only [isClosed, Bool.and_eq_true] at hClosed
  refine ⟨⟨hClosed.2, rfl⟩, ?_⟩
  intro mark hMark
  rw [Html.tags]
  split
  · exact List.mem_cons_of_mem _ hMark
  · exact hMark

/-- A tag that a fragment does not have does not begin in it, whatever follows the fragment. -/
theorem HasTags.not_prefix {body : String} (hBody : IsTagBody body) {c : Char} {html : Html}
    {marks : List Html} (h : HasTags (c :: html) marks) (hNew : tag body ∉ marks) (rest : Html) :
    ¬tag body <+: c :: (html ++ rest) := by
  rintro ⟨after, hAfter⟩
  obtain ⟨hClosed, rfl⟩ := h
  simp only [tag, List.cons_append, List.cons.injEq, List.append_assoc, List.nil_append] at hAfter
  obtain ⟨rfl, hAfter⟩ := hAfter
  simp only [isClosed, bne_self_eq_false, Bool.false_or, Bool.and_eq_true,
    List.contains_iff_mem] at hClosed
  have hWhole := takeWhile_append_of_mem hClosed.1 rest
  rw [← hAfter, takeWhile_append_stop hBody.2] at hWhole
  refine hNew ?_
  rw [Html.tags, if_pos ⟨rfl, hClosed.1⟩, ← hWhole]
  exact List.mem_cons_self

theorem isPrefixOf_eq_false {mark text : List Char} (h : ¬mark <+: text) : mark.isPrefixOf text = false := by
  rw [← List.isPrefixOf_iff_prefix] at h
  exact Bool.not_eq_true _ ▸ h

variable {opening closing : String}

/-- A fragment without the opening tag is passed over. -/
theorem between_append (hOpening : IsTagBody opening) (closing : List Char) {html : Html}
    {marks : List Html} (h : HasTags html marks) (hNew : tag opening ∉ marks) (rest : Html) :
    between (tag opening) closing (html ++ rest) = between (tag opening) closing rest := by
  induction html generalizing marks with
  | nil => rfl
  | cons c html ih =>
      have hPrefix := isPrefixOf_eq_false (h.not_prefix hOpening hNew rest)
      obtain ⟨hTail, hSubset⟩ := h.tail
      rw [List.cons_append, between, hPrefix]
      exact ih hTail fun hMem => hNew (hSubset hMem)

theorem between_of_hasTags (hOpening : IsTagBody opening) (closing : List Char) {html : Html}
    {marks : List Html} (h : HasTags html marks) (hNew : tag opening ∉ marks) :
    between (tag opening) closing html = [] := by
  have hWhole := between_append hOpening closing h hNew []
  rwa [List.append_nil, between] at hWhole

/-- A fragment without the closing tag reaches up to it. -/
theorem before?_append (hClosing : IsTagBody closing) {html : Html} {marks : List Html}
    (h : HasTags html marks) (hNew : tag closing ∉ marks) (rest : Html) :
    before? (tag closing) (html ++ (tag closing ++ rest)) = some html := by
  induction html generalizing marks with
  | nil =>
      unfold tag
      rw [List.nil_append, List.cons_append, before?, if_pos (by simp)]
  | cons c html ih =>
      have hPrefix := isPrefixOf_eq_false (h.not_prefix hClosing hNew (tag closing ++ rest))
      obtain ⟨hTail, hSubset⟩ := h.tail
      rw [List.cons_append, before?, hPrefix, ih hTail fun hMem => hNew (hSubset hMem)]
      rfl

/-- What stands between two tags is read as a whole. -/
theorem between_element (hOpening : IsTagBody opening) (hClosing : IsTagBody closing)
    (hOther : tag opening ≠ tag closing) {html : Html} {marks : List Html} (h : HasTags html marks)
    (hOpens : tag opening ∉ marks) (hCloses : tag closing ∉ marks) (rest : Html) :
    between (tag opening) (tag closing) (tag opening ++ (html ++ (tag closing ++ rest))) =
      html :: between (tag opening) (tag closing) rest := by
  have hPrefix : (tag opening).isPrefixOf (tag opening ++ (html ++ (tag closing ++ rest))) = true :=
    List.isPrefixOf_iff_prefix.mpr (List.prefix_append _ _)
  have hDrop : (tag opening ++ (html ++ (tag closing ++ rest))).drop (tag opening).length =
      html ++ (tag closing ++ rest) := List.drop_left
  -- Behind the first bracket the opening tag does not begin again before the element has ended.
  have hBody : HasTags (opening.toList ++ ['>']) [] := hasTags_of_notMem (by simp [hOpening.1])
  have hInner := hBody.append (h.append (hasTags_tag hClosing))
  have hPassed := between_append hOpening (tag closing) hInner (by simp [hOpens, hOther]) rest
  have hText : tag opening ++ (html ++ (tag closing ++ rest)) =
      '<' :: (opening.toList ++ ['>'] ++ (html ++ tag closing) ++ rest) := by
    simp [tag]
  rw [hText] at hPrefix hDrop ⊢
  rw [between, hPrefix, hDrop, before?_append hClosing h hCloses, hPassed]
  rfl

/-- Of elements next to each other, with a gap behind each, every one is read. -/
theorem between_elements (hOpening : IsTagBody opening) (hClosing : IsTagBody closing)
    (hOther : tag opening ≠ tag closing) {α : Type} {part : α → Html} {marks : α → List Html}
    (h : ∀ item, HasTags (part item) (marks item)) (hOpens : ∀ item, tag opening ∉ marks item)
    (hCloses : ∀ item, tag closing ∉ marks item) (items : List α) (gap : Html) (hGap : '<' ∉ gap)
    (rest : Html) :
    between (tag opening) (tag closing)
        (items.flatMap (fun item => tag opening ++ (part item ++ (tag closing ++ gap))) ++ rest) =
      items.map part ++ between (tag opening) (tag closing) rest := by
  induction items with
  | nil => rfl
  | cons item items ih =>
      have hPassed := between_append hOpening (tag closing) (hasTags_of_notMem hGap) (by simp)
      simp only [List.flatMap_cons, List.append_assoc, List.map_cons, List.cons_append]
      rw [between_element hOpening hClosing hOther (h item) (hOpens item) (hCloses item), hPassed, ih]

/-- Every line but the last one ends with a line break. -/
theorem lines_append_singleton (front : List Html) (last : Html) :
    lines (front ++ [last]) = front.flatMap (fun line => line ++ ['\n']) ++ last := by
  induction front with
  | nil => rfl
  | cons line front ih =>
      have hBreak : lines (line :: (front ++ [last])) = line ++ '\n' :: lines (front ++ [last]) := by
        cases front <;> rfl
      rw [List.cons_append, hBreak, ih]
      simp

end Html

namespace Page

open Html (HasTags IsTagBody between between_append between_of_hasTags between_element between_elements bodyRows
  decodeEntities hasTags_escape tag)

/-- What the page shows in the place `column` of a row: the text of the cell there, that of the row itself
in the first place if the row is no array, and nothing where a row is too short. -/
def shownCell (row : Json) (column : Nat) : List Char :=
  match row with
  | .arr cells => (cells[column]?).elim [] cellText
  | cell => if column = 0 then cellText cell else []

theorem alignRow_eq_map (width : Nat) (row : List Json) :
    alignRow width row = (List.range width).map fun column => (row[column]?).elim [] cellText := by
  refine List.ext_getElem (by rw [length_alignRow]; simp) ?_
  intro column hColumn hRange
  rw [length_alignRow] at hColumn
  simp only [alignRow, List.getElem_append, List.length_map, List.length_take, List.getElem_map,
    List.getElem_take, List.getElem_replicate, List.getElem_range]
  split
  next hShort =>
      rw [List.getElem?_eq_getElem (by omega)]
      rfl
  next hLong =>
      rw [List.getElem?_eq_none (by omega)]
      rfl

theorem alignRow_rowCells (width : Nat) (row : Json) :
    alignRow width (Payload.rowCells row) = (List.range width).map (shownCell row) := by
  rw [alignRow_eq_map]
  refine List.map_congr_left fun column _ => ?_
  cases row with
  | arr cells => rfl
  | _ => cases column <;> rfl

theorem headerCell_eq (column : String) :
    headerCell column = tag "th" ++ (Html.escape column.toList ++ (tag "/th" ++ [])) := by
  rw [List.append_nil]
  exact List.append_assoc _ _ _

theorem bodyCell_eq (cell : List Char) :
    bodyCell cell = tag "td" ++ (Html.escape cell ++ (tag "/td" ++ [])) := by
  rw [List.append_nil]
  exact List.append_assoc _ _ _

theorem bodyRow_eq (cells : List (List Char)) :
    bodyRow cells ++ ['\n'] = tag "tr" ++ (cells.flatMap bodyCell ++ (tag "/tr" ++ ['\n'])) := by
  have hRow : bodyRow cells = tag "tr" ++ (cells.flatMap bodyCell ++ tag "/tr") := List.append_assoc _ _ _
  rw [hRow]
  simp only [List.append_assoc]

/-- The body of a table: a line for each row. -/
def bodyLines (width : Nat) (rows : List (List Json)) : Html :=
  ['\n'] ++ rows.flatMap fun row => tag "tr" ++ ((alignRow width row).flatMap bodyCell ++ (tag "/tr" ++ ['\n']))

/-- A table is a front, its header cells, and its body between two more fixed parts. -/
theorem tableView_eq (columns : List String) {rows : List (List Json)} (hRows : rows ≠ []) :
    tableView columns rows =
      (tag "div class=\"table-view\"" ++ tag "table" ++ ['\n'] ++ tag "thead" ++ tag "tr") ++
        (columns.flatMap (fun column => tag "th" ++ (Html.escape column.toList ++ (tag "/th" ++ []))) ++
        ((tag "/tr" ++ tag "/thead" ++ ['\n']) ++
        (tag "tbody" ++ (bodyLines columns.length rows ++
        (tag "/tbody" ++ (tag "/table" ++ tag "/div")))))) := by
  have hFront : "<div class=\"table-view\"><table>".toList =
      tag "div class=\"table-view\"" ++ tag "table" := rfl
  have hHeadOpen : "<thead><tr>".toList = tag "thead" ++ tag "tr" := rfl
  have hHeadClose : "</tr></thead>".toList = tag "/tr" ++ tag "/thead" := rfl
  have hBody : "<tbody>".toList = tag "tbody" := rfl
  have hBack : "</tbody></table></div>".toList = tag "/tbody" ++ (tag "/table" ++ tag "/div") := rfl
  unfold tableView bodyLines
  rw [if_neg (by simpa using hRows), Html.lines_append_singleton, hFront, hHeadOpen, hHeadClose, hBody, hBack]
  simp only [List.flatMap_cons, List.flatMap_map, bodyRow_eq, List.append_assoc, List.cons_append,
    List.nil_append, funext headerCell_eq]

theorem hasTags_cells (cells : List (List Char)) :
    HasTags (cells.flatMap bodyCell) (cells.flatMap fun _ => [tag "td", tag "/td"]) :=
  HasTags.flatMap fun cell _ => hasTags_bodyCell cell

theorem hasTags_bodyLines (width : Nat) (rows : List (List Json)) :
    HasTags (bodyLines width rows) (rows.flatMap fun _ => rowTags width) := by
  have hBreak : HasTags ['\n'] [] := ⟨rfl, rfl⟩
  refine hBreak.append (HasTags.flatMap fun row _ => ?_)
  have hRow := (hasTags_bodyRow (alignRow width row)).append hBreak
  rwa [length_alignRow, List.append_nil, bodyRow_eq] at hRow

/-! ### Reading the parts of a table -/

theorem between_headers (columns : List String) {rows : List (List Json)} (hRows : rows ≠ []) :
    between (tag "th") (tag "/th") (tableView columns rows) =
      columns.map fun column => Html.escape column.toList := by
  have hOpening : IsTagBody "th" := by decide
  have hFront : HasTags (tag "div class=\"table-view\"" ++ tag "table" ++ ['\n'] ++ tag "thead" ++ tag "tr")
      [tag "div class=\"table-view\"", tag "table", tag "thead", tag "tr"] := ⟨rfl, rfl⟩
  have hMiddle : HasTags (tag "/tr" ++ tag "/thead" ++ ['\n']) [tag "/tr", tag "/thead"] := ⟨rfl, rfl⟩
  have hBody : HasTags (tag "tbody") [tag "tbody"] := ⟨rfl, rfl⟩
  have hBack : HasTags (tag "/tbody" ++ (tag "/table" ++ tag "/div"))
      [tag "/tbody", tag "/table", tag "/div"] := ⟨rfl, rfl⟩
  have hRest := hMiddle.append (hBody.append ((hasTags_bodyLines columns.length rows).append hBack))
  have hNone := between_of_hasTags hOpening (tag "/th") hRest (by simp [rowTags])
  have hClosing : IsTagBody "/th" := by decide
  have hEscape (column : String) : HasTags (Html.escape column.toList) [] := hasTags_escape _
  have hHeaders := between_elements hOpening hClosing (by simp) hEscape (by simp) (by simp) columns [] (by simp)
  rw [tableView_eq columns hRows, between_append hOpening _ hFront (by simp), hHeaders, hNone,
    List.append_nil]

theorem bodyRows_tableView (columns : List String) {rows : List (List Json)} (hRows : rows ≠ []) :
    bodyRows (tableView columns rows) =
      rows.map fun row => (alignRow columns.length row).flatMap bodyCell := by
  have hOpening : IsTagBody "tbody" := by decide
  have hFront : HasTags (tag "div class=\"table-view\"" ++ tag "table" ++ ['\n'] ++ tag "thead" ++ tag "tr")
      [tag "div class=\"table-view\"", tag "table", tag "thead", tag "tr"] := ⟨rfl, rfl⟩
  have hHeaders : HasTags
      (columns.flatMap fun column => tag "th" ++ (Html.escape column.toList ++ (tag "/th" ++ [])))
      (columns.flatMap fun _ => [tag "th", tag "/th"]) := by
    refine HasTags.flatMap fun column _ => ?_
    have hHeader := hasTags_headerCell column
    rwa [headerCell_eq] at hHeader
  have hMiddle : HasTags (tag "/tr" ++ tag "/thead" ++ ['\n']) [tag "/tr", tag "/thead"] := ⟨rfl, rfl⟩
  have hBack : HasTags (tag "/table" ++ tag "/div") [tag "/table", tag "/div"] := ⟨rfl, rfl⟩
  have hTable : between (tag "tbody") (tag "/tbody") (tableView columns rows) =
      [bodyLines columns.length rows] := by
    rw [tableView_eq columns hRows, between_append hOpening _ hFront (by simp),
      between_append hOpening _ hHeaders (by simp), between_append hOpening _ hMiddle (by simp),
      between_element hOpening (by decide) (by simp) (hasTags_bodyLines _ _) (by simp [rowTags])
        (by simp [rowTags]),
      between_of_hasTags hOpening _ hBack (by simp)]
  have hBreak : HasTags ['\n'] [] := ⟨rfl, rfl⟩
  have hRowOpening : IsTagBody "tr" := by decide
  have hRowClosing : IsTagBody "/tr" := by decide
  have hCells (row : List Json) := hasTags_cells (alignRow columns.length row)
  have hLines := between_elements hRowOpening hRowClosing (by simp) hCells (by simp) (by simp) rows ['\n']
    (by simp) []
  rw [List.append_nil, between, List.append_nil] at hLines
  rw [bodyRows, hTable, List.flatMap_singleton, bodyLines,
    between_append hRowOpening _ hBreak (by simp), hLines]

theorem between_cells (cells : List (List Char)) :
    between (tag "td") (tag "/td") (cells.flatMap bodyCell) = cells.map Html.escape := by
  have hOpening : IsTagBody "td" := by decide
  have hClosing : IsTagBody "/td" := by decide
  have hCells := between_elements hOpening hClosing (by simp) hasTags_escape (by simp) (by simp) cells []
    (by simp) []
  rwa [← funext bodyCell_eq, List.append_nil, between, List.append_nil] at hCells

/-! ### The table of a payload -/

end Page
end QueryPlayground
