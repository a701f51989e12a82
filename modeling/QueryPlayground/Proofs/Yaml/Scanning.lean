import QueryPlayground.Proofs.Yaml.Escapes
import QueryPlayground.Yaml.Node

/-! From a settings text to its document. Tokens are taken from the text one after the other, and nodes are made of
them; only the reading of characters may come upon something without a value. -/
namespace QueryPlayground.Yaml

variable {source : Source}

open Reading (Stays Cause)

/-! ### Tokens -/

/-- A scan whose cursor is in the text of a source. -/
def Scan.In (source : Source) (scan : Scan) : Prop := scan.cursor.In source

namespace Scan

variable {scan : Scan}

/-- A step of a scan: it goes on in the text, or it fails for a cause. -/
abbrev Goes (source : Source) (step : Except Fault Scan) : Prop := Ends (Scan.In source) (Cause source) step

theorem in_unwind (hIn : scan.In source) (column : Int) : (scan.unwind column).In source := by
  unfold unwind
  split
  next => exact hIn
  next => exact hIn

theorem in_indentTo (hIn : scan.In source) (column : Int) : (scan.indentTo column).1.In source := by
  unfold indentTo
  split
  next => exact hIn
  next => exact hIn

theorem in_skipToken (hIn : scan.In source) : scan.skipToken.In source := by
  unfold skipToken
  split
  next => exact hIn
  next => exact hIn
  next => exact hIn

theorem ends_read {α : Type} {reading : Reading α} (hReading : Stays source reading) (hIn : scan.In source) :
    Ends (fun done => done.2.In source) (Cause source) (scan.read reading) :=
  (hReading scan.cursor hIn).map fun _ hDone => hDone.2

theorem goes_dropStale (hIn : scan.In source) : Goes source scan.dropStale := by
  unfold dropStale
  dsimp only
  split
  next => trivial
  next => exact hIn

theorem goes_dropKey (hIn : scan.In source) : Goes source scan.dropKey := by
  unfold dropKey
  split
  next => trivial
  next => exact hIn

theorem goes_saveKey (hIn : scan.In source) : Goes source scan.saveKey := by
  unfold saveKey
  split
  next => exact (goes_dropKey hIn).map fun _ hDropped => hDropped
  next => exact hIn

theorem stays_skipGaps (fuel : Nat) (broken : Bool) : Stays source (skipGaps fuel broken) := by
  induction fuel generalizing broken with
  | zero => exact keeps_done _
  | succ fuel ih =>
      unfold skipGaps
      refine Reading.stays_skipSpaces.then fun _ => Reading.stays_skipComment.then fun _ => ?_
      exact Reading.stays_takeBreak.then fun _ => (keeps_done _).ite (ih _)

theorem stays_skipMark : Stays source skipMark := by
  unfold skipMark
  refine keeps_get.then fun _ => Keeps.ite ?_ (keeps_done _)
  exact Reading.stays_peek.then fun _ => (Reading.stays_skip _).ite (keeps_done _)

theorem goes_toToken (hIn : scan.In source) : Goes source scan.toToken := by
  unfold toToken
  have hGaps : Stays source (do skipMark; skipGaps (← Reading.bound) false) :=
    stays_skipMark.then fun _ => Reading.stays_bound.then fun _ => stays_skipGaps _ _
  exact (ends_read hGaps hIn).bind fun _ hDone => hDone

theorem goes_leaveBlocks (hIn : scan.In source) : Goes source scan.leaveBlocks := by
  unfold leaveBlocks
  exact (goes_dropKey (in_unwind hIn _)).map fun _ hDropped => hDropped

theorem goes_takeMark (hIn : scan.In source) (length : Nat) (token : Token) :
    Goes source (scan.takeMark length token) := by
  unfold takeMark
  exact (ends_read (Reading.stays_skip _) hIn).map fun _ hDone => by exact hDone

theorem goes_takeContent (hIn : scan.In source) {reading : Reading Token} (hReading : Stays source reading) :
    Goes source (scan.takeContent reading) := by
  unfold takeContent
  exact (goes_saveKey hIn).bind fun _ hSaved => (ends_read hReading (by exact hSaved)).bind fun _ hDone => by exact hDone

theorem goes_openFlow (hIn : scan.In source) (token : Token) : Goes source (scan.openFlow token) := by
  unfold openFlow
  exact (goes_saveKey hIn).bind fun _ hSaved => goes_takeMark (by exact hSaved) _ _

theorem goes_closeFlow (hIn : scan.In source) (token : Token) : Goes source (scan.closeFlow token) := by
  unfold closeFlow
  exact (goes_dropKey (by exact hIn)).bind fun _ hDropped => goes_takeMark (by exact hDropped) _ _

theorem goes_openBlock (hIn : scan.In source) (opening : Token) : Goes source (scan.openBlock opening) := by
  unfold openBlock
  split
  next => exact hIn
  refine Ends.unless (fun _ => trivial) ?_
  have hIndented := in_indentTo hIn scan.column
  dsimp only
  split
  next => exact hIndented
  next => exact hIndented

theorem goes_takeBlockEntry (hIn : scan.In source) : Goes source scan.takeBlockEntry := by
  unfold takeBlockEntry
  exact (goes_openBlock hIn _).bind fun _ hOpened => (goes_dropKey (by exact hOpened)).bind fun _ hDropped =>
    goes_takeMark (by exact hDropped) _ _

theorem goes_takeKey (hIn : scan.In source) : Goes source scan.takeKey := by
  unfold takeKey
  exact (goes_openBlock hIn _).bind fun _ hOpened => (goes_dropKey (by exact hOpened)).bind fun _ hDropped =>
    goes_takeMark (by exact hDropped) _ _

theorem goes_takeValue (hIn : scan.In source) : Goes source scan.takeValue := by
  unfold takeValue
  split
  next place _ =>
      dsimp only
      have hIndented : ∀ fresh : Scan, fresh.In source →
          (if fresh.inFlow then (fresh, false) else fresh.indentTo place.column).1.In source := by
        intro fresh hFresh
        split
        next => exact hFresh
        next => exact in_indentTo hFresh _
      exact goes_takeMark (by exact hIndented _ hIn) _ _
  next => exact (goes_openBlock hIn _).bind fun _ hOpened => goes_takeMark (by exact hOpened) _ _

theorem stays_atPlain (inFlow : Bool) : Stays source (atPlain inFlow) := by
  unfold atPlain
  refine Reading.stays_peek.then fun c => Keeps.ite (keeps_done _) ?_
  exact (Reading.stays_peekAt _).then fun _ => keeps_done _

theorem goes_takePlain (hIn : scan.In source) : Goes source scan.takePlain := by
  unfold takePlain
  exact (goes_saveKey hIn).bind fun _ hSaved => (ends_read (Reading.stays_plainScalar _ _) hSaved).bind
    fun _ hDone => by exact hDone

theorem goes_takeBlock (hIn : scan.In source) (fold : Bool) : Goes source (scan.takeBlock fold) := by
  unfold takeBlock
  exact (goes_dropKey (by exact hIn)).bind fun _ hDropped => (ends_read (Reading.stays_blockScalar _ _) hDropped).bind
    fun _ hDone => by exact hDone

theorem goes_takeIndicator? (hIn : scan.In source) (c : Char) {taken : Except Fault Scan}
    (h : scan.takeIndicator? c = some taken) : Goes source taken := by
  unfold takeIndicator? at h
  split at h
  case h_11 => cases h
  all_goals obtain rfl := Option.some.inj h
  · exact goes_openFlow hIn _
  · exact goes_openFlow hIn _
  · exact goes_closeFlow hIn _
  · exact goes_closeFlow hIn _
  · exact (goes_dropKey (by exact hIn)).bind fun _ hDropped => goes_takeMark (by exact hDropped) _ _
  · exact goes_takeContent hIn (Reading.stays_takeAnchor.map _)
  · exact goes_takeContent hIn (Reading.stays_takeAnchor.map _)
  · exact goes_takeContent hIn (Reading.stays_takeTag.map _)
  · exact goes_takeContent hIn ((Reading.stays_quotedScalar _).map _)
  · exact goes_takeContent hIn ((Reading.stays_quotedScalar _).map _)

theorem stays_lookAhead (c : Char) (atLineStart inFlow : Bool) : Stays source (lookAhead c atLineStart inFlow) := by
  unfold lookAhead
  have hPlain : Stays source (do if ← atPlain inFlow then return Ahead.plain else return .nothing) :=
    (stays_atPlain _).then fun _ => (keeps_done _).ite (keeps_done _)
  have hEntry : Stays source (do
      if isGapOrEnd (← Reading.peekAt 1) then return Ahead.blockEntry
      if ← atPlain inFlow then return Ahead.plain else return .nothing) :=
    (Reading.stays_peekAt _).then fun _ => (keeps_done _).ite hPlain
  split
  next => exact Keeps.ite ((Reading.stays_atMarks _).then fun _ => (keeps_done _).ite hEntry) hEntry
  split
  next => exact Keeps.ite ((Reading.stays_atMarks _).then fun _ => (keeps_done _).ite hPlain) hPlain
  split
  next =>
      exact Keeps.ite (keeps_done _) ((Reading.stays_peekAt _).then fun _ => (keeps_done _).ite hPlain)
  next => exact hPlain

theorem goes_take (hIn : scan.In source) (c : Char) : Goes source (scan.take c) := by
  unfold take
  split
  next =>
      exact (goes_leaveBlocks hIn).bind fun _ hLeft => (ends_read Reading.stays_takeDirective hLeft).bind
        fun _ hDone => hDone
  split
  next => exact goes_takeBlock hIn _
  split
  next taken hTaken => exact goes_takeIndicator? hIn c hTaken
  next =>
      refine (ends_read (stays_lookAhead _ _ _) hIn).bind fun ⟨ahead, scan⟩ hAhead => ?_
      dsimp only
      cases ahead with
      | documentStart => exact (goes_leaveBlocks hAhead).bind fun _ hLeft => goes_takeMark hLeft _ _
      | documentEnd => exact (goes_leaveBlocks hAhead).bind fun _ hLeft => goes_takeMark hLeft _ _
      | blockEntry => exact goes_takeBlockEntry hAhead
      | key => exact goes_takeKey hAhead
      | value => exact goes_takeValue hAhead
      | plain => exact goes_takePlain hAhead
      | nothing => trivial

/-- One step of a scan goes on in the text. -/
theorem goes_step (hIn : scan.In source) : Goes source scan.step := by
  unfold step
  refine (goes_toToken hIn).bind fun _ hToken => (goes_dropStale hToken).bind fun scan hFresh => ?_
  refine (ends_read Reading.stays_peek (in_unwind hFresh _)).bind fun ⟨c, scan⟩ hDone => ?_
  dsimp only
  split
  next => exact (goes_leaveBlocks hDone).bind fun _ hLeft => by exact hLeft
  next => exact goes_take hDone c

theorem goes_fill (fuel : Nat) (hIn : scan.In source) : Goes source (scan.fill fuel) := by
  induction fuel generalizing scan with
  | zero => trivial
  | succ fuel ih =>
      unfold fill
      split
      next => exact hIn
      split
      next => exact (goes_step hIn).bind fun _ hStep => ih hStep
      next =>
          refine (goes_dropStale hIn).bind fun scan hFresh => ?_
          split
          next => exact (goes_step hFresh).bind fun _ hStep => ih hStep
          next => exact hFresh

theorem ends_next (hIn : scan.In source) :
    Ends (fun done => done.2.In source) (Cause source) scan.next := by
  unfold next
  refine (goes_fill _ hIn).bind fun scan hFilled => ?_
  split
  next => trivial
  next => exact hFilled

end Scan

/-! ### Nodes -/

/-- A feed whose tokens come from the text of a source. -/
def Feed.In (source : Source) (feed : Feed) : Prop := feed.scan.In source

namespace Parse

variable {α : Type}

/-- Reading of nodes that stays in the text of a source. -/
abbrev Stays (source : Source) (act : Parse α) : Prop := Keeps (Feed.In source) (Cause source) act fun _ => True

theorem stays_malformed : Stays source (throw .malformed : Parse α) := keeps_throw trivial _

theorem stays_peek : Stays source peek := by
  unfold peek
  refine keeps_get.bind fun feed hIn => ?_
  refine (keeps_lift (Scan.ends_next hIn)).bind fun ⟨token, scan⟩ hNext => ?_
  exact (keeps_modify fun _ _ => by exact hNext).then fun _ => keeps_done _

theorem stays_skip : Stays source skip := keeps_modify fun _ hIn => Scan.in_skipToken hIn

theorem stays_accept (token : Token) : Stays source (accept token) := by
  unfold accept
  exact stays_peek.then fun _ => Keeps.ite (stays_skip.then fun _ => keeps_done _) (keeps_done _)

theorem stays_demand (token : Token) : Stays source (demand token) := by
  unfold demand
  exact (stays_accept _).then fun _ => (keeps_done _).ite stays_malformed

theorem stays_atAny (tokens : List Token) : Stays source (atAny tokens) := by
  unfold atAny
  exact stays_peek.then fun _ => keeps_done _

theorem stays_add (node : Node) : Stays source (add node) := keeps_modifyGet fun _ hIn => hIn

theorem stays_replace (place : Nat) (node : Node) : Stays source (replace place node) := keeps_modify fun _ hIn => hIn

theorem stays_addEmpty : Stays source addEmpty := stays_add _

theorem stays_anchor? : Stays source anchor? := by
  unfold anchor?
  refine stays_peek.then fun token => ?_
  split
  next => exact stays_skip.then fun _ => keeps_done _
  next => exact keeps_done _

theorem stays_tag? : Stays source tag? := by
  unfold tag?
  refine stays_peek.then fun token => ?_
  split
  next => exact stays_skip.then fun _ => keeps_done _
  next => exact keeps_done _

theorem stays_fullName (tag : TagText) : Stays source (fullName tag) := by
  unfold fullName
  split
  next => exact keeps_done _
  next =>
      refine keeps_get.then fun feed => ?_
      split
      next => exact keeps_done _
      next => exact stays_malformed

theorem stays_properties : Stays source properties := by
  unfold properties
  refine stays_anchor?.then fun anchor => ?_
  split
  next name =>
      refine stays_tag?.then fun tag => ?_
      rw [pure_bind]
      cases tag with
      | none => exact keeps_done _
      | some tag => exact (stays_fullName tag).then fun _ => keeps_done _
  next =>
      refine stays_tag?.then fun tag => ?_
      split
      next tag =>
          refine stays_anchor?.then fun anchor => ?_
          rw [pure_bind]
          exact (stays_fullName tag).then fun _ => keeps_done _
      next => exact keeps_done _

theorem stays_checkAnchor (anchor : Option (List Char)) : Stays source (checkAnchor anchor) := by
  cases anchor with
  | none => exact keeps_done _
  | some name => exact keeps_get.then fun _ => Keeps.ite stays_malformed (keeps_done _)

theorem stays_addAnchored (anchor : Option (List Char)) (node : Node) : Stays source (addAnchored anchor node) := by
  unfold addAnchored
  refine (stays_add node).then fun place => ?_
  cases anchor with
  | none => exact keeps_done _
  | some name => exact (keeps_modify fun _ hIn => by exact hIn).then fun _ => keeps_done _

theorem stays_aliased (name : List Char) : Stays source (aliased name) := by
  unfold aliased
  refine keeps_get.then fun feed => ?_
  split
  next => exact stays_malformed
  next => exact keeps_done _

/-- What stays in the text with some steps to spare, for each kind of a node's parts. -/
structure NodesStay (source : Source) (fuel : Nat) : Prop where
  node (block indentless : Bool) : Stays source (node block indentless fuel)
  content (anchor tag : Option (List Char)) (form : Form) : Stays source (content anchor tag form fuel)
  nodeBefore (ends : List Token) (block indentless : Bool) : Stays source (nodeBefore ends block indentless fuel)
  valueBefore (ends : List Token) (block : Bool) : Stays source (valueBefore ends block fuel)
  blockItems (done : List Nat) : Stays source (blockItems done fuel)
  indentlessItems (done : List Nat) : Stays source (indentlessItems done fuel)
  blockMembers (done : List (Nat × Nat)) : Stays source (blockMembers done fuel)
  flowMember (ending : Token) : Stays source (flowMember ending fuel)
  flowItems (done : List Nat) : Stays source (flowItems done fuel)
  flowMembers (done : List (Nat × Nat)) : Stays source (flowMembers done fuel)

theorem nodesStay_zero : NodesStay source 0 := by
  constructor <;> intros <;> exact stays_malformed

/-- A collection is put in its place when its parts have been read. -/
theorem stays_collection {parts : Type} (anchor : Option (List Char)) (empty : Node) {read : Parse parts}
    (hRead : Stays source read) (full : parts → Node) : Stays source (do
      let place ← addAnchored anchor empty
      replace place (full (← read))
      return place) :=
  (stays_addAnchored _ _).then fun _ => hRead.then fun _ => (stays_replace _ _).then fun _ => keeps_done _

theorem nodesStay_succ {fuel : Nat} (h : NodesStay source fuel) : NodesStay source (fuel + 1) where
  node block indentless := by
    unfold Parse.node
    refine stays_peek.then fun token => ?_
    split
    next name => exact stays_skip.then fun _ => stays_aliased name
    next =>
        refine stays_properties.then fun ⟨anchor, tag⟩ => stays_peek.then fun token => ?_
        split
        next => exact stays_malformed
        next form _ => exact (stays_checkAnchor anchor).then fun _ => h.content _ _ _
  content anchor tag form := by
    unfold Parse.content
    cases form with
    | scalar text plain => exact stays_skip.then fun _ => stays_addAnchored _ _
    | empty => exact stays_addAnchored _ _
    | flowItems => exact stays_skip.then fun _ => stays_collection anchor _ (h.flowItems []) _
    | flowMembers => exact stays_skip.then fun _ => stays_collection anchor _ (h.flowMembers []) _
    | indentlessItems => exact stays_collection anchor _ (h.indentlessItems []) _
    | blockItems => exact stays_skip.then fun _ => stays_collection anchor _ (h.blockItems []) _
    | blockMembers => exact stays_skip.then fun _ => stays_collection anchor _ (h.blockMembers []) _
  nodeBefore ends block indentless := by
    unfold Parse.nodeBefore
    exact (stays_atAny _).then fun _ => stays_addEmpty.ite (h.node _ _)
  valueBefore ends block := by
    unfold Parse.valueBefore
    exact (stays_accept _).then fun _ => (h.nodeBefore _ _ _).ite stays_addEmpty
  blockItems done := by
    unfold Parse.blockItems
    refine (stays_accept _).then fun _ => Keeps.ite ?_ ?_
    · exact (h.nodeBefore _ _ _).then fun _ => h.blockItems _
    · exact (stays_demand _).then fun _ => keeps_done _
  indentlessItems done := by
    unfold Parse.indentlessItems
    refine (stays_accept _).then fun _ => Keeps.ite ?_ (keeps_done _)
    exact (h.nodeBefore _ _ _).then fun _ => h.indentlessItems _
  blockMembers done := by
    unfold Parse.blockMembers
    refine (stays_accept _).then fun _ => Keeps.ite ?_ ?_
    · exact (h.nodeBefore _ _ _).then fun _ => (h.valueBefore _ _).then fun _ => h.blockMembers _
    · exact (stays_demand _).then fun _ => keeps_done _
  flowMember ending := by
    unfold Parse.flowMember
    exact (h.nodeBefore _ _ _).then fun _ => (h.valueBefore _ _).then fun _ => keeps_done _
  flowItems done := by
    unfold Parse.flowItems
    have hItem : Stays source (do
        if ← accept .flowSequenceEnd then return done.reverse
        if ← accept .key then
          let place ← add (.mapping .map [])
          replace place (.mapping .map [← Parse.flowMember .flowSequenceEnd fuel])
          Parse.flowItems (place :: done) fuel
        else
          let item ← Parse.node false false fuel
          Parse.flowItems (item :: done) fuel) := by
      refine (stays_accept _).then fun _ => Keeps.ite (keeps_done _) ?_
      refine (stays_accept _).then fun _ => Keeps.ite ?_ ((h.node _ _).then fun _ => h.flowItems _)
      exact (stays_add _).then fun _ => (h.flowMember _).then fun _ => (stays_replace _ _).then fun _ => h.flowItems _
    refine (stays_accept _).then fun _ => Keeps.ite (keeps_done _) ?_
    exact Keeps.ite hItem ((stays_demand _).then fun _ => hItem)
  flowMembers done := by
    unfold Parse.flowMembers
    have hMember : Stays source (do
        if ← accept .flowMappingEnd then return done.reverse
        if ← accept .key then
          let member ← Parse.flowMember .flowMappingEnd fuel
          Parse.flowMembers (member :: done) fuel
        else
          let key ← Parse.node false false fuel
          Parse.flowMembers ((key, ← addEmpty) :: done) fuel) := by
      refine (stays_accept _).then fun _ => Keeps.ite (keeps_done _) ?_
      refine (stays_accept _).then fun _ => Keeps.ite ((h.flowMember _).then fun _ => h.flowMembers _) ?_
      exact (h.node _ _).then fun _ => stays_addEmpty.then fun _ => h.flowMembers _
    refine (stays_accept _).then fun _ => Keeps.ite (keeps_done _) ?_
    exact Keeps.ite hMember ((stays_demand _).then fun _ => hMember)

theorem nodesStay (fuel : Nat) : NodesStay source fuel := by
  induction fuel with
  | zero => exact nodesStay_zero
  | succ fuel ih => exact nodesStay_succ ih

theorem stays_directives (version : Bool) (handles : List (List Char × List Char)) (fuel : Nat) :
    Stays source (directives version handles fuel) := by
  induction fuel generalizing version handles with
  | zero => exact stays_malformed
  | succ fuel ih =>
      unfold directives
      refine stays_peek.then fun token => ?_
      split
      next => exact Keeps.unless (fun _ => trivial) (stays_skip.then fun _ => ih _ _)
      next => exact Keeps.unless (fun _ => trivial) (stays_skip.then fun _ => ih _ _)
      next => exact stays_skip.then fun _ => ih _ _
      next => exact keeps_done _

theorem stays_skipEnds (fuel : Nat) : Stays source (skipEnds fuel) := by
  induction fuel with
  | zero => exact keeps_done _
  | succ fuel ih =>
      unfold skipEnds
      exact (stays_accept _).then fun _ => ih.ite (keeps_done _)

theorem stays_document (fuel : Nat) : Stays source (document fuel) := by
  have hEnd : ∀ root : Nat, Stays source (do
      skipEnds fuel
      if (← peek) = .streamEnd then return some root
      let _ ← directives false [] fuel
      throw .malformed) := fun root =>
    (stays_skipEnds _).then fun _ => stays_peek.then fun _ =>
      (keeps_done _).ite ((stays_directives _ _ _).then fun _ => stays_malformed)
  have hRoot : ∀ (explicit : Bool) (begins : Token → Bool), Stays source (do
      let atBorder := begins (← peek) || (← atAny [.documentStart, .documentEnd, .streamEnd])
      let root ← if explicit && atBorder then addEmpty else node true false fuel
      skipEnds fuel
      if (← peek) = .streamEnd then return some root
      let _ ← directives false [] fuel
      throw .malformed) := fun explicit begins =>
    stays_peek.then fun _ => (stays_atAny _).then fun _ =>
      Keeps.ite (stays_addEmpty.then fun root => hEnd root) (((nodesStay fuel).node _ _).then fun root => hEnd root)
  unfold document
  refine stays_peek.then fun first => Keeps.ite (keeps_done _) (Keeps.ite ?_ (hRoot _ _))
  refine (stays_directives _ _ _).then fun handles => ?_
  exact (keeps_modify fun _ hIn => by exact hIn).then fun _ => (stays_demand _).then fun _ => hRoot _ _

end Parse

/-- A text is taken apart to a document, unless it breaks a rule, breaks off, or spells something without a
value. -/
theorem Outline.ends_ofSource? (source : Source) : Ends (fun _ => True) (Cause source) (Outline.ofSource? source) := by
  unfold Outline.ofSource?
  exact (Parse.stays_document _ _ (by exact Cursor.in_ofSource source)).bind fun _ _ => trivial

end QueryPlayground.Yaml
