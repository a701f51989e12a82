import QueryPlayground.Proofs.Settings.Members
import QueryPlayground.Proofs.Yaml.Keeping
import QueryPlayground.Proofs.Yaml.Values
import QueryPlayground.Settings.Load

/-! Names in the mappings of a document. While values are made of nodes, no mapping ever holds a name
twice: a member is put where the same key stands already, and texts are the same key just if they are
equal. Whatever else is done to a draft leaves its mappings alone. -/
namespace QueryPlayground.Yaml

/-- No mapping of a draft holds a name twice. -/
def Draft.Named (draft : Draft) : Prop :=
  ∀ (place : Nat) members, draft.pieces[place]? = some (some (.map members)) → SingleNames members

/-- The form of a text is the text itself. -/
def Key.IsFormed (key : Key) : Prop := ∀ name, key.value = .str name → key.form = .plain (.str name)

/-- Members with different keys. -/
structure Distinct (members : List (Key × Nat)) : Prop where
  forms : members.Pairwise fun member other => member.1.form ≠ other.1.form
  formed : ∀ member ∈ members, member.1.IsFormed

theorem keyForm_isFormed (place : Option Nat) (value : Scalar) : Key.IsFormed ⟨value, value.keyForm place⟩ := by
  rintro name rfl
  rfl

theorem key_of_mem_putMember {key : Key} {value : Nat} {members : List (Key × Nat)} {member : Key × Nat}
    (h : member ∈ putMember key value members) : member.1 = key ∨ member.1 ∈ members.map Prod.fst := by
  induction members with
  | nil =>
      rw [putMember, List.mem_singleton] at h
      exact Or.inl (h ▸ rfl)
  | cons first members ih =>
      obtain ⟨k, v⟩ := first
      rw [putMember] at h
      split at h
      next =>
          rcases List.mem_cons.mp h with rfl | hRest
          · exact Or.inr (by simp)
          · exact Or.inr (List.mem_cons_of_mem _ (List.mem_map_of_mem hRest))
      next =>
          rcases List.mem_cons.mp h with rfl | hRest
          · exact Or.inr (by simp)
          · exact (ih hRest).imp_right (List.mem_cons_of_mem _)

theorem distinct_nil : Distinct [] := ⟨.nil, by simp⟩

/-- Putting a member keeps the keys different. -/
theorem Distinct.putMember {key : Key} (hKey : key.IsFormed) (value : Nat) {members : List (Key × Nat)}
    (h : Distinct members) : Distinct (putMember key value members) := by
  refine ⟨?_, ?_⟩
  · replace h := h.forms
    induction members with
    | nil => exact List.pairwise_singleton _ _
    | cons first members ih =>
        obtain ⟨k, v⟩ := first
        obtain ⟨hFirst, hRest⟩ := List.pairwise_cons.mp h
        rw [Yaml.putMember]
        split
        next => exact List.pairwise_cons.mpr ⟨hFirst, hRest⟩
        next hDifferent =>
            refine List.pairwise_cons.mpr ⟨fun member hMember => ?_, ih hRest⟩
            rcases key_of_mem_putMember hMember with hSame | hOld
            · rw [hSame]
              exact hDifferent
            · obtain ⟨other, hOther, hSame⟩ := List.mem_map.mp hOld
              rw [← hSame]
              exact hFirst other hOther
  · intro member hMember
    rcases key_of_mem_putMember hMember with hSame | hOld
    · rw [hSame]
      exact hKey
    · obtain ⟨other, hOther, hSame⟩ := List.mem_map.mp hOld
      rw [← hSame]
      exact h.formed other hOther

/-- Different keys have different texts. -/
theorem Distinct.singleNames {members : List (Key × Nat)} (h : Distinct members) :
    SingleNames (members.map fun (key, value) => (key.value, value)) := by
  refine List.pairwise_map.mpr (h.forms.imp_of_mem ?_)
  intro member other hMember hOther hForms name hName hSame
  refine hForms ?_
  rw [h.formed member hMember name hName, h.formed other hOther name hSame]

/-! ### The steps from nodes to values -/

/-- What holds of a draft while values are made of the nodes of a document. -/
structure Draft.Sound (nodes : Array Node) (draft : Draft) : Prop where
  named : draft.Named
  made : AllMadeOf draft.nodes nodes
  bound : draft.bound ≠ 0

/-- A node of a mark that has a value, or a mapping, take their place from elsewhere. -/
def Marked (nodes : Array Node) : Prop :=
  ∃ place, (nodes.getD place default).tag = .value ∨ (nodes.getD place default).tag = .merge

namespace Build

variable {α β : Type} {nodes : Array Node}

/-- What an activity keeps, and why it may fail: it breaks the rules, or a node has no value. -/
abbrev Keeps (nodes : Array Node) (act : Build α) (result : α → Prop) : Prop :=
  Yaml.Keeps (Draft.Sound nodes) (Fault.IsFor False (Lacks nodes)) act result

theorem keeps_refuse (result : α → Prop) : Keeps nodes refuse result := keeps_throw trivial result

/-- Changes around the values touch no mapping and no node. -/
theorem keeps_around {f : Draft → Draft} (hPieces : ∀ draft, (f draft).pieces = draft.pieces)
    (hNodes : ∀ draft, (f draft).nodes = draft.nodes) (hBound : ∀ draft, (f draft).bound = draft.bound) :
    Keeps nodes (modify f) fun _ => True := by
  refine keeps_modify fun draft hSound => ⟨fun place members hMembers => ?_, fun place => ?_, ?_⟩
  · rw [hPieces] at hMembers
    exact hSound.named place members hMembers
  · rw [hNodes]
    exact hSound.made place
  · rw [hBound]
    exact hSound.bound

/-- A change of nodes that leaves them made of those of the document. -/
theorem keeps_nodes {f : Draft → Array Node}
    (h : ∀ draft, AllMadeOf draft.nodes nodes → AllMadeOf (f draft) nodes) :
    Keeps nodes (modify fun draft => { draft with nodes := f draft }) fun _ => True :=
  keeps_modify fun draft hSound => ⟨hSound.named, h draft hSound.made, hSound.bound⟩

theorem keeps_put (place : Nat) {piece : Piece}
    (h : ∀ members, piece = .map members → SingleNames members) : Keeps nodes (put place piece) fun _ => True := by
  refine keeps_modify fun draft hSound => ⟨fun other members hMembers => ?_, hSound.made, hSound.bound⟩
  by_cases hPlace : place = other
  · subst hPlace
    rw [Array.getElem?_setIfInBounds_self] at hMembers
    split at hMembers
    · exact h members (Option.some.inj (Option.some.inj hMembers))
    · cases hMembers
  · rw [Array.getElem?_setIfInBounds_ne hPlace] at hMembers
    exact hSound.named other members hMembers

theorem keeps_node (place : Nat) :
    Keeps nodes (node place) fun node => node.MadeOf (nodes.getD place default) := by
  unfold node
  exact keeps_get.bind fun draft hSound => keeps_pure (hSound.made place)

/-- The text of a node is one that stands for it. A chain of values ends unless one is marked. -/
theorem keeps_text (fuel place : Nat) (hFuel : fuel ≠ 0 ∨ Marked nodes) :
    Keeps nodes (text fuel place) (StandsAt nodes place) := by
  induction fuel generalizing place with
  | zero =>
      obtain ⟨other, hMark⟩ := hFuel.resolve_left (· rfl)
      exact keeps_throw (Lacks.endless hMark) _
  | succ fuel ih =>
      refine (keeps_node place).bind fun node hNode => ?_
      generalize hPlace : nodes.getD place default = written at hNode
      cases hNode with
      | scalar hTag => exact keeps_pure (.scalar hPlace)
      | sequence hTag => exact keeps_refuse _
      | mapping hTag =>
          refine keeps_get.bind fun draft hSound => ?_
          dsimp only
          split
          next => exact keeps_refuse _
          next key value hFind =>
              have hMark : (nodes.getD key default).tag = .value :=
                (hSound.made key).tag_eq (by simpa using List.find?_some hFind) (by decide)
              refine (ih value (.inr ⟨key, .inl hMark⟩)).mono fun text hText => ?_
              obtain ⟨other, own, hOther⟩ := hText.exists_scalar
              exact .member hPlace hMark hOther

theorem singleNames_of_emptyPiece? {tag : Tag} {piece : Piece} (h : emptyPiece? tag = some piece) :
    ∀ members, piece = .map members → SingleNames members := by
  rintro members rfl
  cases tag <;> cases h
  exact .nil

theorem keeps_piece (place : Nat) : Keeps nodes (piece place) fun _ => True := by
  unfold piece
  refine keeps_get.then fun draft => ?_
  split
  next => exact keeps_done _
  next =>
      refine (keeps_node place).bind fun node hNode => ?_
      split
      next piece hPiece =>
          refine (keeps_put place (singleNames_of_emptyPiece? hPiece)).then fun _ => ?_
          exact (keeps_around (fun _ => by rfl) (fun _ => by rfl) fun _ => by rfl).then fun _ => keeps_done _
      next =>
          refine keeps_get.then fun draft => ?_
          refine (keeps_text _ _ (.inl (Nat.succ_ne_zero _))).bind fun text hText => ?_
          refine Keeps.unless (fun hParts => ?_) ?_
          · generalize hPlace : nodes.getD place default = written at hNode
            have hTag := hNode.tag_eq hParts.1 (by decide)
            cases hNode with
            | @mapping tag tag' members members' hTags =>
                obtain rfl : tag = .timestamp := hTag
                exact Lacks.inParts hPlace
            | _ => cases hParts.2
          · have hScalar : Ends (fun _ => True) (Fault.IsFor False (Lacks nodes)) (scalarOf node.tag text) := by
              refine (ends_scalarOf node.tag text).mono (fun _ => id) fun fault hFault => hFault.mono fun value hLacks => ?_
              rw [← hNode.tag_eq rfl hLacks.tag_ne] at hLacks
              exact .text hText hLacks
            refine (keeps_lift hScalar).then fun scalar => ?_
            have hPut : Keeps nodes (do put place (.scalar scalar); return Piece.scalar scalar) fun _ => True :=
              (keeps_put place (by simp)).then fun _ => keeps_done _
            exact Keeps.ite ((keeps_around (fun _ => by rfl) (fun _ => by rfl) fun _ => by rfl).then fun _ => hPut) hPut

theorem keeps_make (place : Nat) : Keeps nodes (make place) fun _ => True := by
  unfold make
  exact (keeps_piece place).then fun _ => keeps_done _

theorem keeps_key (place : Nat) : Keeps nodes (key place) Key.IsFormed := by
  unfold key
  refine (keeps_piece place).then fun piece => ?_
  split
  · exact keeps_get.then fun _ => keeps_pure (keyForm_isFormed _ _)
  · exact keeps_refuse _

/-- Only mappings have members. -/
theorem keeps_members (place : Nat) :
    Keeps nodes (members place) fun _ => ∃ tag members, nodes.getD place default = .mapping tag members := by
  unfold members
  refine (keeps_node place).bind fun node hNode => ?_
  split
  next =>
      generalize nodes.getD place default = written at hNode ⊢
      cases hNode
      exact keeps_pure ⟨_, _, rfl⟩
  next => exact keeps_refuse _

theorem keeps_setMembers {place : Nat} (hMapping : ∃ tag members, nodes.getD place default = .mapping tag members)
    (members : List (Nat × Nat)) : Keeps nodes (setMembers place members) fun _ => True :=
  keeps_nodes fun _ hMade => hMade.modify fun _ hNode => hNode.setMembers hMapping members

theorem keeps_merged (place : Nat) : Keeps nodes (merged place) fun _ => True := by
  unfold merged
  refine (keeps_node place).then fun node => ?_
  cases node with
  | scalar tag text => exact keeps_refuse _
  | mapping tag members => exact keeps_done _
  | sequence tag items => exact keeps_done _

/-- Merging changes the members of nodes, and no value. A chain of merges ends unless one is marked. -/
theorem keeps_flatten (fuel : Nat) :
    (∀ place, fuel ≠ 0 ∨ Marked nodes → Keeps nodes (flatten fuel place) fun _ => True) ∧
      (Marked nodes → ∀ done places, Keeps nodes (mergedMembers fuel done places) fun _ => True) := by
  induction fuel with
  | zero =>
      refine ⟨fun place hFuel => ?_, fun ⟨other, hMark⟩ _ _ => keeps_throw (Lacks.endless hMark) _⟩
      obtain ⟨other, hMark⟩ := hFuel.resolve_left (· rfl)
      exact keeps_throw (Lacks.endless hMark) _
  | succ fuel ih =>
      obtain ⟨hFlatten, hMerged⟩ := ih
      refine ⟨fun place _ => ?_, fun hMark done places => ?_⟩
      · unfold flatten
        refine (keeps_members place).bind fun own hMapping => keeps_get.bind fun draft hSound => ?_
        dsimp only
        split
        next => exact keeps_nodes fun _ hMade => hMade.asText own
        next index hIndex =>
            have hMark : Marked nodes := by
              obtain ⟨hBound, hMerge, -⟩ := List.findIdx?_eq_some_iff_getElem.mp hIndex
              exact ⟨_, .inr ((hSound.made _).tag_eq (by simpa using hMerge) (by decide))⟩
            refine (keeps_setMembers hMapping _).then fun _ => (keeps_merged _).then fun sources => ?_
            refine (hMerged hMark [] sources).then fun added => (hFlatten place (.inr hMark)).then fun _ => ?_
            exact (keeps_members place).then fun left => keeps_setMembers hMapping _
      · cases places with
        | nil => exact keeps_done _
        | cons place rest =>
            unfold mergedMembers
            refine (keeps_members place).then fun _ => (hFlatten place (.inr hMark)).then fun _ => ?_
            exact (keeps_members place).then fun members => hMerged hMark _ _

/-- The members that a mapping ends up with have different keys. -/
theorem keeps_entries (place : Nat) : Keeps nodes (entries place) Distinct := by
  unfold entries
  refine (keeps_members place).then fun _ => keeps_get.bind fun draft hSound => ?_
  refine ((keeps_flatten _).1 place (.inl hSound.bound)).then fun _ => (keeps_members place).then fun members => ?_
  refine Keeps.foldlM (fun done member hDone => ?_) members distinct_nil
  obtain ⟨keyPlace, value⟩ := member
  refine (keeps_key keyPlace).bind fun key hKey => ?_
  exact (keeps_make value).then fun _ => keeps_pure (hDone.putMember hKey value)

theorem keeps_items (place : Nat) : Keeps nodes (items place) fun _ => True := by
  unfold items
  refine (keeps_node place).then fun node => ?_
  split
  · exact keeps_done _
  · exact keeps_refuse _

theorem keeps_pair (place : Nat) : Keeps nodes (pair place) fun _ => True := by
  unfold pair
  refine (keeps_members place).then fun members => ?_
  split
  · exact (keeps_make _).then fun _ => (keeps_make _).then fun _ => keeps_done _
  · exact keeps_refuse _

/-- A mapping gets its parts with every name once. -/
theorem keeps_complete (place : Nat) : Keeps nodes (complete place) fun _ => True := by
  unfold complete
  refine (keeps_piece place).then fun piece => ?_
  cases piece with
  | scalar value => exact keeps_done _
  | list items =>
      refine (keeps_items place).then fun items => (Keeps.forM keeps_make items).then fun _ => ?_
      exact keeps_put place (by simp)
  | pairs items =>
      refine (keeps_items place).then fun items => (Keeps.mapM keeps_pair items).then fun pairs => ?_
      exact keeps_put place (by simp)
  | set members =>
      exact (keeps_entries place).then fun entries => keeps_put place (by simp)
  | map members =>
      refine (keeps_entries place).bind fun entries hEntries => keeps_put place ?_
      rintro members ⟨⟩
      exact hEntries.singleNames

theorem keeps_completeFrom (n fuel : Nat) : Keeps nodes (completeFrom n fuel) fun _ => True := by
  induction fuel generalizing n with
  | zero => exact keeps_done _
  | succ fuel ih =>
      unfold completeFrom
      refine keeps_get.then fun draft => ?_
      split
      · exact keeps_done _
      · exact (keeps_complete _).then fun _ => ih _

end Build

theorem Draft.sound_ofNodes (nodes : Array Node) : (Draft.ofNodes nodes).Sound nodes := by
  refine ⟨fun place members hMembers => ?_, fun place => .refl _, ?_⟩
  · have hPieces : (Draft.ofNodes nodes).pieces = Array.replicate nodes.size none := rfl
    rw [hPieces, Array.getElem?_replicate] at hMembers
    split at hMembers <;> cases hMembers
  · have hParts : 0 < nodes.foldl (fun n node => n + Draft.partCount node + 1) 1 :=
      Array.foldl_induction (motive := fun _ n => 0 < n) (by decide) fun _ _ _ => Nat.succ_pos _
    exact Nat.pos_iff_ne_zero.mp (Nat.pow_pos hParts)

/-- Values are made of the nodes of a document, no mapping with a name twice; or the document breaks the rules, or
one of its nodes has no value. -/
theorem Outline.ends_graph (outline : Outline) :
    Ends (fun graph => ∀ place members, graph.piece place = .map members → SingleNames members)
      (Fault.IsFor False (Lacks outline.nodes)) outline.graph := by
  have hKeeps : Build.Keeps outline.nodes (do
      Build.make outline.root
      Build.completeFrom 0 (outline.nodes.size + 1)) fun _ => True :=
    (Build.keeps_make _).then fun _ => Build.keeps_completeFrom _ _
  refine (hKeeps _ (Draft.sound_ofNodes outline.nodes)).bind fun done hDone place members hPiece => ?_
  obtain ⟨_, draft⟩ := done
  simp only [Graph.piece, Array.getD_eq_getD_getElem?, Array.getElem?_map] at hPiece
  cases hFound : draft.pieces[place]? with
  | none =>
      rw [hFound] at hPiece
      cases hPiece
  | some piece =>
      rw [hFound] at hPiece
      cases piece with
      | none => cases hPiece
      | some piece =>
          obtain rfl : piece = .map members := hPiece
          exact hDone.2.named place members hFound

/-- A document that is a mapping is a settled one. -/
theorem read_settled {source : Source} {members : Tree.Members} {depth : Nat}
    (h : Yaml.read (depth + 2) source = .ok (.map members)) : Tree.Settled members := by
  unfold Yaml.read at h
  obtain ⟨_ | outline, -, hTree⟩ := bind_eq_ok_iff.mp h
  · cases hTree
  · obtain ⟨graph, hGraph, hTree⟩ := bind_eq_ok_iff.mp hTree
    exact Graph.tree_settled (outline.ends_graph.of_ok hGraph) (Except.ok.inj hTree)

end QueryPlayground.Yaml

namespace QueryPlayground.Settings

/-- What is read of a settings file is settled, whatever bytes it holds. -/
theorem readFound_settled {host : Host} {path : Path} {members : Tree.Members}
    (h : readFound host path = .ok members) : Tree.Settled members := by
  unfold readFound at h
  split at h
  next =>
      cases h
      exact Tree.settled_nil
  next => cases h
  next => cases h
  next => cases h
  next bytes _ =>
      unfold readSource at h
      split at h
      next => cases h
      next tree hRead =>
          split at h
          next =>
              split at h
              next others =>
                  cases h
                  exact Yaml.read_settled hRead
              next => cases h
          next =>
              cases h
              exact Tree.settled_nil

end QueryPlayground.Settings
