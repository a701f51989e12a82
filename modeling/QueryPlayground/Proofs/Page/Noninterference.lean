import QueryPlayground.Proofs.Json.Blank
import QueryPlayground.Proofs.Page.Regions
import QueryPlayground.Proofs.Page.Tags

/-! Nothing that an outcome carries as text reaches the markup of its page. Two outcomes that differ only
in their strings have the same tags in the same order, and an opening bracket on a page always begins a
tag of the views or of the highlighter. -/
namespace QueryPlayground

open Html (HasTags tag)

/-- An outcome with all its strings blank. -/
def Outcome.blank : Outcome → Outcome
  | .table columns rows time =>
    .table (columns.map fun _ => "") (rows.map fun row => row.map Json.blank) time.blank
  | .document data => .document data.blank
  | .cacheHit data => .cacheHit data.blank
  | .scalar value _ => .scalar value.blank ""
  | .success _ => .success ""
  | .keyList keys => .keyList (keys.map fun _ => "")
  | .failure _ => .failure ""

/-- Every opening bracket of a fragment begins one of some tags. -/
def Html.OpensOnly (allowed : List Html) (html : Html) : Prop :=
  ∀ before after, html = before ++ '<' :: after → ∃ mark ∈ allowed, mark <+: '<' :: after

theorem Html.HasTags.opensOnly {html : Html} {marks allowed : List Html} (h : HasTags html marks)
    (hAllowed : marks ⊆ allowed) : html.OpensOnly allowed := by
  intro before after hHtml
  obtain ⟨mark, hMark, hPrefix⟩ := h.exists_prefix hHtml
  exact ⟨mark, hAllowed hMark, hPrefix⟩

namespace Page

/-- The tags that stand in the views. -/
def viewTags : List Html :=
  [tag "p", tag "/p", tag "div class=\"table-view\"", tag "table", tag "/table", tag "thead", tag "/thead",
    tag "tbody", tag "/tbody", tag "tr", tag "/tr", tag "th", tag "/th", tag "td", tag "/td",
    tag "div class=\"json-view\"", tag "div", tag "/div", tag "span class=\"json-number\"", tag "/span",
    tag "div class=\"status-line status-ok\" style=\"color: #10b981; font-weight: 600;\"",
    tag "div class=\"status-line status-error\" style=\"color: #ef4444; font-weight: 600;\"",
    tag "h4", tag "/h4", tag "strong", tag "/strong"]

/-- The tags that the highlighter puts around tokens. -/
def highlightTags : List Html :=
  [tag "span class=\"json-key\"", tag "span class=\"json-string\"", tag "span class=\"json-boolean\"",
    tag "span class=\"json-null\"", tag "span class=\"json-number\"", tag "/span"]

/-- The tags in the results region. -/
def contentTags : Outcome → List Html
  | .table columns rows _ => tableTags columns.length rows.length
  | .document data => jsonTags data
  | .cacheHit data => jsonTags data
  | .scalar .. => scalarTags
  | .success _ => successTags
  | .keyList keys => keyListTags keys.length
  | .failure _ => failureTags

/-- The tags in the statistics region. -/
def statsTags : Outcome → List Html
  | .success _ => panelTags 1
  | .keyList _ => panelTags 1
  | _ => panelTags 2

theorem hasTags_regions {outcome : Outcome} {content : Html} {stats : Panel}
    (h : regions outcome = .ok (content, stats)) :
    HasTags content (contentTags outcome) ∧ HasTags stats.toHtml (statsTags outcome) := by
  cases outcome with
  | table columns rows time =>
      cases h
      exact ⟨hasTags_tableView columns rows, hasTags_panel _⟩
  | document data =>
      simp only [regions] at h
      split at h
      · cases h
      · cases h
        exact ⟨hasTags_jsonView data, hasTags_panel _⟩
  | cacheHit data =>
      cases h
      exact ⟨hasTags_jsonView data, hasTags_panel _⟩
  | scalar value message =>
      cases h
      exact ⟨hasTags_scalarView _, hasTags_panel _⟩
  | success message =>
      cases h
      exact ⟨hasTags_successLine message, hasTags_panel _⟩
  | keyList keys =>
      cases h
      exact ⟨hasTags_keyListView keys, hasTags_panel _⟩
  | failure message =>
      cases h
      exact ⟨hasTags_failureLine message, hasTags_panel _⟩

/-! ### Strings leave the tags as they are -/

theorem contentTags_blank (outcome : Outcome) : contentTags outcome.blank = contentTags outcome := by
  cases outcome with
  | table columns rows time => simp only [Outcome.blank, contentTags, List.length_map]
  | document data => simp only [Outcome.blank, contentTags, jsonTags, Highlight.kinds_blank]
  | cacheHit data => simp only [Outcome.blank, contentTags, jsonTags, Highlight.kinds_blank]
  | keyList keys => simp only [Outcome.blank, contentTags, List.length_map]
  | scalar value message => rfl
  | success message => rfl
  | failure message => rfl

theorem statsTags_blank (outcome : Outcome) : statsTags outcome.blank = statsTags outcome := by
  cases outcome <;> rfl

/-- Whether an outcome has a page does not depend on its strings either. -/
theorem exists_regions_blank (outcome : Outcome) :
    (∃ page, regions outcome.blank = .ok page) ↔ ∃ page, regions outcome = .ok page := by
  cases outcome with
  | document data => cases data <;> simp [Outcome.blank, Json.blank, regions, size?]
  | _ => exact iff_of_true ⟨_, rfl⟩ ⟨_, rfl⟩

theorem hasTags_render {outcome : Outcome} {elapsed : Binary64} {sequence : Int} {model : Model}
    (h : render outcome elapsed sequence = .ok model) :
    HasTags model.content (contentTags outcome) ∧ HasTags model.statsHtml (statsTags outcome) := by
  obtain ⟨hRegions, hStats, _⟩ := regions_of_render h
  rw [hStats]
  exact hasTags_regions hRegions

/-! ### All tags are known -/

theorem flatten_replicate_subset {marks allowed : List Html} (h : marks ⊆ allowed) (n : Nat) :
    (List.replicate n marks).flatten ⊆ allowed := by
  intro mark hMark
  obtain ⟨piece, hPiece, hMem⟩ := List.mem_flatten.mp hMark
  rw [List.eq_of_mem_replicate hPiece] at hMem
  exact h hMem

theorem rowTags_subset (columns : Nat) : rowTags columns ⊆ viewTags := by
  have hCells : (List.replicate columns [tag "td", tag "/td"]).flatten ⊆ viewTags :=
    flatten_replicate_subset (by simp [viewTags]) columns
  simp only [rowTags, List.cons_subset, List.append_subset]
  exact ⟨by simp [viewTags], hCells, by simp [viewTags]⟩

theorem tableTags_subset (columns rows : Nat) : tableTags columns rows ⊆ viewTags := by
  have hHeaders : (List.replicate columns [tag "th", tag "/th"]).flatten ⊆ viewTags :=
    flatten_replicate_subset (by simp [viewTags]) columns
  have hRows := flatten_replicate_subset (rowTags_subset columns) rows
  unfold tableTags
  split
  · simp [viewTags]
  · simp only [List.append_subset, List.cons_subset]
    refine ⟨⟨⟨⟨?_, ?_, ?_, hHeaders, ?_⟩, ?_⟩, hRows⟩, ?_⟩ <;> simp [viewTags]

theorem spanTags_subset (kind : Highlight.Kind) : Highlight.spanTags kind ⊆ highlightTags := by
  cases kind <;> simp [Highlight.spanTags, Highlight.Kind.cssClass, highlightTags]

theorem jsonTags_subset (v : Json) : jsonTags v ⊆ viewTags ++ highlightTags := by
  have hSpans : (Highlight.kinds v).flatMap Highlight.spanTags ⊆ highlightTags := by
    intro mark hMark
    obtain ⟨kind, _, hMem⟩ := List.mem_flatMap.mp hMark
    exact spanTags_subset kind hMem
  simp only [jsonTags, List.cons_subset, List.append_subset]
  refine ⟨by simp [viewTags], ?_, by simp [viewTags]⟩
  exact fun mark hMark => List.mem_append_right _ (hSpans hMark)

theorem keyListTags_subset (keys : Nat) : keyListTags keys ⊆ viewTags := by
  have hKeys : (List.replicate keys [tag "div", tag "/div"]).flatten ⊆ viewTags :=
    flatten_replicate_subset (by simp [viewTags]) keys
  simp only [keyListTags, List.cons_subset, List.append_subset]
  exact ⟨by simp [viewTags], hKeys, by simp [viewTags]⟩

theorem panelTags_subset (entries : Nat) : panelTags entries ⊆ viewTags := by
  have hEntries : (List.replicate entries [tag "p", tag "strong", tag "/strong", tag "/p"]).flatten ⊆ viewTags :=
    flatten_replicate_subset (by simp [viewTags]) entries
  exact List.append_subset.mpr ⟨by simp [viewTags], hEntries⟩

theorem contentTags_subset (outcome : Outcome) : contentTags outcome ⊆ viewTags ++ highlightTags := by
  have hView {marks : List Html} (h : marks ⊆ viewTags) : marks ⊆ viewTags ++ highlightTags :=
    fun mark hMark => List.mem_append_left _ (h hMark)
  cases outcome with
  | table columns rows time => exact hView (tableTags_subset _ _)
  | document data => exact jsonTags_subset data
  | cacheHit data => exact jsonTags_subset data
  | scalar value message => exact hView (by simp [contentTags, scalarTags, viewTags])
  | success message => exact hView (by simp [contentTags, successTags, viewTags])
  | keyList keys => exact hView (keyListTags_subset _)
  | failure message => exact hView (by simp [contentTags, failureTags, viewTags])

theorem statsTags_subset (outcome : Outcome) : statsTags outcome ⊆ viewTags ++ highlightTags := by
  intro mark hMark
  refine List.mem_append_left _ ?_
  cases outcome <;> exact panelTags_subset _ hMark

/-! ### Pages of outcomes that differ in their strings -/

/-- Strings cannot reach the markup. If an outcome has a page, then so has every outcome that differs from
it only in strings; both pages have the same tags in the same order, and no opening bracket begins
anything but a tag of the views or of the highlighter. There is a page whenever documents are records. -/
theorem render_tags_of_blank_eq {outcome other : Outcome} (h : outcome.blank = other.blank)
    (elapsed elapsed' : Binary64) (sequence sequence' : Int) :
    (∀ model, render outcome elapsed sequence = .ok model →
      (∃ model', render other elapsed' sequence' = .ok model' ∧
        model.content.tags = model'.content.tags ∧ model.statsHtml.tags = model'.statsHtml.tags) ∧
      model.content.OpensOnly (viewTags ++ highlightTags) ∧
      model.statsHtml.OpensOnly (viewTags ++ highlightTags)) ∧
    (outcome.HoldsRecord → ∃ model, render outcome elapsed sequence = .ok model) := by
  refine ⟨?_, ?_⟩
  · intro model hModel
    obtain ⟨hContent, hStats⟩ := hasTags_render hModel
    refine ⟨?_, hContent.opensOnly (contentTags_subset outcome), hStats.opensOnly (statsTags_subset outcome)⟩
    have hPage := (exists_regions_blank outcome).mpr ⟨_, (regions_of_render hModel).1⟩
    rw [h] at hPage
    obtain ⟨page, hPage⟩ := (exists_regions_blank other).mp hPage
    obtain ⟨model', hModel'⟩ := render_of_regions hPage elapsed' sequence'
    obtain ⟨hContent', hStats'⟩ := hasTags_render hModel'
    refine ⟨model', hModel', ?_, ?_⟩
    · rw [hContent.tags, hContent'.tags, ← contentTags_blank, h, contentTags_blank]
    · rw [hStats.tags, hStats'.tags, ← statsTags_blank, h, statsTags_blank]
  · intro hRecord
    obtain ⟨page, hPage⟩ := exists_regions_of_holdsRecord hRecord
    exact render_of_regions hPage elapsed sequence

/-- A hostile entry: its strings imitate a key, a number and the end of their span. -/
theorem render_tags_hostile_entry :
    ∃ model model',
      render (.cacheHit (.obj [("a\": 1, \"b", .arr [.str "</span><script>", .int 1, .float .nan])])) .zero 1 =
        .ok model ∧
      render (.cacheHit (.obj [("a", .arr [.str "", .int 1, .float .nan])])) .zero 1 = .ok model' ∧
      model.content.tags = model'.content.tags := by
  have hBlank :
      Outcome.blank (.cacheHit (.obj [("a\": 1, \"b", .arr [.str "</span><script>", .int 1, .float .nan])])) =
        Outcome.blank (.cacheHit (.obj [("a", .arr [.str "", .int 1, .float .nan])])) := rfl
  obtain ⟨hPages, hPage⟩ := render_tags_of_blank_eq hBlank .zero .zero 1 1
  obtain ⟨model, hModel⟩ := hPage trivial
  obtain ⟨⟨model', hModel', hTags, _⟩, _⟩ := hPages model hModel
  exact ⟨model, model', hModel, hModel', hTags⟩

end Page
end QueryPlayground
