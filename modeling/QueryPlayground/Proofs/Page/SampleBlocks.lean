import Mathlib.Data.List.Basic
import QueryPlayground.Page.Surface
import QueryPlayground.Proofs.Page.Segments
import QueryPlayground.Proofs.Page.TableText
import QueryPlayground.Proofs.Text.Trim

/-! The list of samples, read back from the page. Each sample is one block, whose attribute carries the query to
run and whose texts show the title and the query; the tags are those of the blocks and no others, since no
title and no query ends its value or begins a tag. -/
namespace QueryPlayground.Page

open Html (Attributes Segment segments textSegments openTag closeTag escape)

/-! ### Blocks of a page -/

def tagName : List Char := ['d', 'i', 'v']

/-- The attributes of an element with a class and nothing else. -/
def classOnly (name : String) : Attributes := [("class".toList, name.toList)]

/-- Whether a segment opens an element with a class. -/
def opensClass (name : String) : Segment → Bool
  | .opening _ attributes => attributes.lookup "class".toList == some name.toList
  | _ => false

def isText : Segment → Bool
  | .text _ => true
  | _ => false

def isTag (segment : Segment) : Bool := !isText segment

def textOf : Segment → List Char
  | .text text => text
  | _ => []

/-- The text at the front of the first element with a class, up to the next tag. -/
def classText? (name : String) (segments : List Segment) : Option (List Char) :=
  match segments.dropWhile fun segment => !opensClass name segment with
  | [] => none
  | _ :: inside => some ((inside.takeWhile isText).flatMap textOf)

/-- A block that offers a query: the query that it carries, and the texts that it shows. -/
structure Block where
  query : Option (List Char)
  title : Option (List Char)
  code : Option (List Char)
  deriving DecidableEq, Repr

/-- The blocks of a page. Each reaches up to the next one. -/
def blocks : List Segment → List Block
  | [] => []
  | .opening name attributes :: rest =>
    if opensClass "sample-query" (.opening name attributes) then
      let inside := rest.takeWhile fun segment => !opensClass "sample-query" segment
      ⟨attributes.lookup "data-query".toList, classText? "sample-query-title" inside,
        classText? "sample-query-code" inside⟩ :: blocks rest
    else blocks rest
  | _ :: rest => blocks rest

/-! ### The segments of a block -/

/-- The attributes of a block. -/
def blockAttributes (sample : Sample) : Attributes :=
  [("class".toList, "sample-query".toList), ("data-query".toList, sample.query.toList)]

/-- The segments of a block behind its opening tag. -/
def innerSegments (sample : Sample) : List Segment :=
  .text "\n  ".toList :: .opening tagName (classOnly "sample-query-title") :: (textSegments sample.title.toList ++
    .closing tagName :: .text "\n  ".toList :: .opening tagName (classOnly "sample-query-code") ::
      (textSegments sample.query.toList ++ [.closing tagName, .text "\n".toList, .closing tagName]))

/-- A block is its tags and texts, as they are written. -/
theorem sampleBlock_eq (sample : Sample) :
    sampleBlock sample = openTag tagName (blockAttributes sample) ++ ("\n  ".toList ++
      (openTag tagName (classOnly "sample-query-title") ++ (escape sample.title.toList ++ (closeTag tagName ++
      ("\n  ".toList ++ (openTag tagName (classOnly "sample-query-code") ++ (escape sample.query.toList ++
      (closeTag tagName ++ ("\n".toList ++ closeTag tagName))))))))) := by
  have hOpen : openTag tagName (blockAttributes sample) =
      "<div class=\"sample-query\" data-query=\"".toList ++ (escape sample.query.toList ++ "\">".toList) := by
    have hValue (value : List Char) :
        openTag tagName [("class".toList, "sample-query".toList), ("data-query".toList, value)] =
        "<div class=\"sample-query\" data-query=\"".toList ++ (((escape value ++ ['"']) ++ []) ++ ['>']) := rfl
    rw [blockAttributes, hValue, List.append_nil, List.append_assoc]
    rfl
  have hTitle : "  <div class=\"sample-query-title\">".toList =
      "  ".toList ++ openTag tagName (classOnly "sample-query-title") := rfl
  have hCode : "  <div class=\"sample-query-code\">".toList =
      "  ".toList ++ openTag tagName (classOnly "sample-query-code") := rfl
  have hClose : "</div>".toList = closeTag tagName := rfl
  have hGap : "\n  ".toList = '\n' :: "  ".toList := rfl
  have hBreak : "\n".toList = ['\n'] := rfl
  rw [hOpen, hGap, hBreak, sampleBlock]
  simp only [Html.lines, hTitle, hCode, hClose, List.append_assoc, List.cons_append, List.nil_append]

/-- A block is read as its segments, whatever its texts hold and whatever follows it. -/
theorem segments_sampleBlock (sample : Sample) (rest : Html) :
    segments (sampleBlock sample ++ rest) =
      .opening tagName (blockAttributes sample) :: (innerSegments sample ++ segments rest) := by
  have hName : ∀ c ∈ tagName, c.isAlpha = true := by
    simp only [tagName, List.forall_mem_cons]
    exact ⟨rfl, rfl, rfl, nofun⟩
  have hOpen (name : String) (after : Html) : segments (openTag tagName (classOnly name) ++ after) =
      .opening tagName (classOnly name) :: segments after :=
    Html.segments_openTag hName (List.cons_ne_nil _ _) (by simp [classOnly]) after
  have hBlock (after : Html) : segments (openTag tagName (blockAttributes sample) ++ after) =
      .opening tagName (blockAttributes sample) :: segments after :=
    Html.segments_openTag hName (List.cons_ne_nil _ _) (by simp [blockAttributes]) after
  have hClose (after : Html) : segments (closeTag tagName ++ after) = .closing tagName :: segments after :=
    Html.segments_closeTag hName after
  have hGap (name : String) (after : Html) : segments ("\n  ".toList ++ (openTag tagName (classOnly name) ++ after)) =
      .text "\n  ".toList :: segments (openTag tagName (classOnly name) ++ after) :=
    Html.segments_append (by decide) (by rintro c ⟨⟩; rfl)
  have hText (text : String) (after : Html) : segments (escape text.toList ++ (closeTag tagName ++ after)) =
      textSegments text.toList ++ segments (closeTag tagName ++ after) :=
    Html.segments_escape text.toList (by rintro c ⟨⟩; rfl)
  have hBreak (after : Html) : segments ("\n".toList ++ (closeTag tagName ++ after)) =
      .text "\n".toList :: segments (closeTag tagName ++ after) :=
    Html.segments_append (by decide) (by rintro c ⟨⟩; rfl)
  rw [sampleBlock_eq]
  simp only [List.append_assoc, innerSegments, hBlock, hGap, hOpen, hText, hClose, hBreak, List.cons_append,
    List.nil_append]

/-! ### Reading the blocks back -/

theorem flatMap_textSegments (text : List Char) : (textSegments text).flatMap textOf = text := by
  unfold textSegments
  split
  next hNone => exact hNone.symm
  next => exact List.append_nil text

/-- The text of an element is read as a whole, behind segments of other classes. -/
theorem classText?_element {name : String} {front : List Segment}
    (hFront : ∀ segment ∈ front, opensClass name segment = false) (text : List Char) (rest : List Segment) :
    classText? name (front ++ .opening tagName (classOnly name) :: (textSegments text ++ .closing tagName :: rest)) =
      some text := by
  have hOpens : opensClass name (.opening tagName (classOnly name)) = true := by simp [opensClass, classOnly]
  have hText : ∀ segment ∈ textSegments text, isText segment = true := Html.forall_textSegments rfl
  rw [classText?, List.dropWhile_append_of_pos fun segment hSegment => by rw [hFront segment hSegment]; rfl,
    List.dropWhile_cons_of_neg (by rw [hOpens]; decide)]
  dsimp only
  rw [List.takeWhile_append_of_pos hText, List.takeWhile_cons_of_neg (by decide), List.append_nil,
    flatMap_textSegments]

theorem opensClass_innerSegments (sample : Sample) :
    ∀ segment ∈ innerSegments sample, opensClass "sample-query" segment = false := by
  have hText (text : List Char) : ∀ segment ∈ textSegments text, opensClass "sample-query" segment = false :=
    Html.forall_textSegments rfl
  unfold innerSegments
  simp only [List.forall_mem_cons, List.forall_mem_append]
  exact ⟨rfl, rfl, hText _, rfl, rfl, rfl, hText _, rfl, rfl, rfl, by simp⟩

/-- Segments that open no block have no part in the blocks. -/
theorem blocks_append {front : List Segment} (h : ∀ segment ∈ front, opensClass "sample-query" segment = false)
    (rest : List Segment) : blocks (front ++ rest) = blocks rest := by
  induction front with
  | nil => rfl
  | cons segment front ih =>
      obtain ⟨hSegment, hFront⟩ := List.forall_mem_cons.mp h
      cases segment with
      | opening name attributes => rw [List.cons_append, blocks, if_neg (by rw [hSegment]; decide), ih hFront]
      | closing name => exact ih hFront
      | text text => exact ih hFront

/-- A block carries its query and shows its title and its query; what follows it has no part in it. -/
theorem blocks_block (sample : Sample) (rest : List Segment) :
    blocks (.opening tagName (blockAttributes sample) :: (innerSegments sample ++ rest)) =
      ⟨some sample.query.toList, some sample.title.toList, some sample.query.toList⟩ :: blocks rest := by
  have hOpens : opensClass "sample-query" (.opening tagName (blockAttributes sample)) = true := by
    simp [opensClass, blockAttributes]
  have hInside : ∀ segment ∈ innerSegments sample, (!opensClass "sample-query" segment) = true := by
    intro segment hSegment
    rw [opensClass_innerSegments sample segment hSegment]
    rfl
  have hQuery : (blockAttributes sample).lookup "data-query".toList = some sample.query.toList := by
    simp [blockAttributes, List.lookup_cons]
  rw [blocks, if_pos hOpens, blocks_append (opensClass_innerSegments sample)]
  dsimp only
  rw [List.takeWhile_append_of_pos hInside, hQuery]
  generalize rest.takeWhile (fun segment => !opensClass "sample-query" segment) = after
  have hTitle : classText? "sample-query-title" (innerSegments sample ++ after) = some sample.title.toList := by
    have hFront : ∀ segment ∈ [Segment.text "\n  ".toList], opensClass "sample-query-title" segment = false := by
      simp [opensClass]
    simpa [innerSegments] using classText?_element hFront sample.title.toList
      (.text "\n  ".toList :: .opening tagName (classOnly "sample-query-code") ::
        (textSegments sample.query.toList ++ .closing tagName :: .text "\n".toList :: .closing tagName :: after))
  have hCode : classText? "sample-query-code" (innerSegments sample ++ after) = some sample.query.toList := by
    have hFront : ∀ segment ∈ .text "\n  ".toList :: .opening tagName (classOnly "sample-query-title") ::
        (textSegments sample.title.toList ++ [.closing tagName, .text "\n  ".toList]),
        opensClass "sample-query-code" segment = false := by
      simp only [List.forall_mem_cons, List.forall_mem_append]
      exact ⟨rfl, rfl, Html.forall_textSegments rfl, rfl, rfl, by simp⟩
    simpa [innerSegments] using classText?_element hFront sample.query.toList
      (.text "\n".toList :: .closing tagName :: after)
  rw [hTitle, hCode]

/-! ### The list -/

/-- The tags of a block. -/
def blockTags (sample : Sample) : List Segment :=
  [.opening tagName (blockAttributes sample), .opening tagName (classOnly "sample-query-title"), .closing tagName,
    .opening tagName (classOnly "sample-query-code"), .closing tagName, .closing tagName]

theorem filter_textSegments (text : List Char) : (textSegments text).filter isTag = [] :=
  List.filter_eq_nil_iff.mpr (Html.forall_textSegments (by simp [isTag, isText]))

theorem filter_block (sample : Sample) :
    (.opening tagName (blockAttributes sample) :: innerSegments sample).filter isTag = blockTags sample := by
  rw [innerSegments]
  simp only [List.filter_cons, List.filter_append, filter_textSegments]
  rfl

theorem segments_sampleList_nil : segments (sampleList []) = [] := by
  rw [sampleList, List.map_nil, Html.lines, segments]

/-- A list is its first block and the others, with no more than a line break between them. -/
theorem segments_sampleList (sample : Sample) (samples : List Sample) :
    ∃ gap, segments (sampleList (sample :: samples)) =
      .opening tagName (blockAttributes sample) ::
        (innerSegments sample ++ (textSegments gap ++ segments (sampleList samples))) := by
  cases samples with
  | nil =>
      have hLast := segments_sampleBlock sample []
      rw [List.append_nil] at hLast
      exact ⟨[], hLast⟩
  | cons next samples =>
      have hList : sampleList (sample :: next :: samples) =
          sampleBlock sample ++ ("\n".toList ++ sampleList (next :: samples)) := rfl
      have hNext : ∀ c ∈ (sampleList (next :: samples)).head?, c = '<' := by
        cases samples <;> (rintro c ⟨⟩; rfl)
      have hText : '<' ∉ "\n".toList := by decide
      have hBreak := Html.segments_append hText hNext
      exact ⟨"\n".toList, by rw [hList, segments_sampleBlock, hBreak]; rfl⟩

theorem blocks_sampleList (samples : List Sample) :
    blocks (segments (sampleList samples)) = samples.map fun sample =>
      ⟨some sample.query.toList, some sample.title.toList, some sample.query.toList⟩ := by
  induction samples with
  | nil => rw [segments_sampleList_nil]; rfl
  | cons sample samples ih =>
      obtain ⟨gap, hSegments⟩ := segments_sampleList sample samples
      rw [hSegments, blocks_block, blocks_append (Html.forall_textSegments rfl), ih, List.map_cons]

theorem tags_sampleList (samples : List Sample) :
    (segments (sampleList samples)).filter isTag = samples.flatMap blockTags := by
  induction samples with
  | nil => rw [segments_sampleList_nil]; rfl
  | cons sample samples ih =>
      obtain ⟨gap, hSegments⟩ := segments_sampleList sample samples
      rw [hSegments, ← List.cons_append, List.filter_append, filter_block, List.filter_append, filter_textSegments,
        ih, List.nil_append, List.flatMap_cons]

/-- Of a text that ends with line breaks just the last of them is trimmed, since blocks begin and end with tags. -/
theorem trimChars_blocks (samples : List Sample) :
    Text.trimChars (samples.flatMap fun sample => sampleBlock sample ++ ['\n']) = sampleList samples := by
  obtain rfl | ⟨front, last, rfl⟩ := List.eq_nil_or_concat' samples
  · rfl
  · have hList : sampleList (front ++ [last]) =
        front.flatMap (fun sample => sampleBlock sample ++ ['\n']) ++ sampleBlock last := by
      rw [sampleList, List.map_append, List.map_singleton, Html.lines_append_singleton, List.flatMap_map]
    have hWhole : (front ++ [last]).flatMap (fun sample => sampleBlock sample ++ ['\n']) =
        sampleList (front ++ [last]) ++ ['\n'] := by
      rw [List.flatMap_append, List.flatMap_singleton, hList, List.append_assoc]
    have hHead : (sampleList (front ++ [last])).head? = some '<' := by
      rw [hList]
      cases front <;> rfl
    have hLast : (sampleList (front ++ [last])).getLast? = some '>' := by
      have hClose : (closeTag tagName).getLast? = some '>' := rfl
      rw [hList, sampleBlock_eq]
      simp only [List.getLast?_append, hClose, Option.some_or]
    exact Text.TrimsTo.trimBy_eq {
      parts := ⟨[], ['\n'], hWhole, by simp, List.forall_mem_singleton.mpr rfl⟩
      head := by rw [hHead]; rintro c ⟨⟩; decide
      last := by rw [hLast]; rintro c ⟨⟩; decide }

/-- The blocks of a list are those of its samples, in order, each with its query to run, its title and its query as
they are; and no tag of the list comes from a title or a query. The white space taken off the ends of the list
belongs to neither. -/
theorem sampleList_reads_back (samples : List Sample) :
    blocks (segments (sampleList samples)) = samples.map (fun sample =>
        ⟨some sample.query.toList, some sample.title.toList, some sample.query.toList⟩) ∧
      (segments (sampleList samples)).filter isTag = samples.flatMap blockTags ∧
      Text.trimChars (samples.flatMap fun sample => sampleBlock sample ++ ['\n']) = sampleList samples :=
  ⟨blocks_sampleList samples, tags_sampleList samples, trimChars_blocks samples⟩

end QueryPlayground.Page
