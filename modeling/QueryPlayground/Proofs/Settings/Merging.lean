import Mathlib.Data.List.Nodup
import QueryPlayground.Proofs.Settings.Members

/-! Merging nested mappings, told by the paths in them. A path leads through mappings from key to key, and keys
that are the same lead to the same place. What the override holds at a path decides over what stood there before,
and what is no mapping cuts off every path that would lead on behind it. -/
namespace QueryPlayground.Tree

/-- What stands at the end of a path. -/
def at? (tree : Tree) : List Scalar → Option Tree
  | [] => some tree
  | key :: path =>
    match tree with
    | .map members => (find? key members).bind fun inner => inner.at? path
    | _ => none

/-- Something that is no mapping stands on the way to the end of a path. -/
def Cuts (tree : Tree) (path : List Scalar) : Prop :=
  ∃ front back value, path = front ++ back ∧ back ≠ [] ∧ tree.at? front = some value ∧ value.isMapping = false

mutual

/-- Whether no mapping holds a key twice, neither the tree itself nor one that a path leads to. -/
def isKeyed : Tree → Bool
  | .map members => decide (forms members).Nodup && areKeyed members
  | _ => true

def areKeyed : Members → Bool
  | [] => true
  | (_, value) :: rest => isKeyed value && areKeyed rest

end

/-- Induction over nested mappings: what is no mapping is a leaf, and the members of a mapping come before
it. -/
theorem mapping_induction {motive : Tree → Prop} (leaf : ∀ tree, tree.isMapping = false → motive tree)
    (mapping : ∀ members, (∀ member ∈ members, motive member.2) → motive (.map members)) :
    ∀ tree, motive tree
  | .map members => mapping members fun member _ => mapping_induction leaf mapping member.2
  | .scalar value => leaf (.scalar value) rfl
  | .list items => leaf (.list items) rfl
  | .held graph place => leaf (.held graph place) rfl
termination_by tree => sizeOf tree
decreasing_by
  rename_i hMember
  have hSize := List.sizeOf_lt_of_mem hMember
  obtain ⟨key, value⟩ := member
  simp only [Prod.mk.sizeOf_spec, Tree.map.sizeOf_spec] at hSize ⊢
  omega

theorem areKeyed_iff {members : Members} :
    areKeyed members = true ↔ ∀ member ∈ members, member.2.isKeyed = true := by
  induction members with
  | nil => simp [areKeyed]
  | cons member members ih => simp [areKeyed, ih]

theorem isKeyed_map_iff {members : Members} :
    (Tree.map members).isKeyed = true ↔
      (forms members).Nodup ∧ ∀ member ∈ members, member.2.isKeyed = true := by
  simp [isKeyed, areKeyed_iff]

/-! ### Keys -/

theorem exists_mem_of_find? {key : Scalar} {value : Tree} {members : Members} (h : find? key members = some value) :
    ∃ other, (other, value) ∈ members := by
  obtain ⟨⟨other, found⟩, hMember, hPair⟩ := List.mem_map.mp (mem_of_lookup h)
  obtain rfl : found = value := congrArg Prod.snd hPair
  exact ⟨other, hMember⟩

theorem keys_setMember (key : Scalar) (value : Tree) (members : Members) :
    (setMember key value members).map Prod.fst =
      if key.form ∈ forms members then members.map Prod.fst else members.map Prod.fst ++ [key] := by
  induction members with
  | nil => simp [setMember, forms]
  | cons member members ih =>
      obtain ⟨other, found⟩ := member
      rw [setMember]
      by_cases hKey : other.form = key.form
      · simp [hKey, forms]
      · have hOther : key.form ≠ other.form := fun h => hKey h.symm
        rw [forms, List.map_cons, ← forms, if_neg hKey]
        simp only [List.map_cons, ih, List.mem_cons, hOther, false_or, apply_ite (other :: ·), List.cons_append]

theorem forms_setMember (key : Scalar) (value : Tree) (members : Members) :
    forms (setMember key value members) =
      if key.form ∈ forms members then forms members else forms members ++ [key.form] := by
  rw [forms_eq_map_keys, keys_setMember, apply_ite (List.map Scalar.form), List.map_append, ← forms_eq_map_keys]
  rfl

/-- The keys that were there keep their places, and the new ones follow in their own order. -/
theorem keys_merge {override : Members} (h : (forms override).Nodup) (base : Members) :
    (merge base override).map Prod.fst =
      base.map Prod.fst ++ (override.map Prod.fst).filter (·.form ∉ forms base) := by
  induction override generalizing base with
  | nil => simp [merge]
  | cons member rest ih =>
      obtain ⟨key, value⟩ := member
      obtain ⟨hKey, hRest⟩ := List.nodup_cons.mp h
      rw [merge, ih hRest, keys_setMember, forms_setMember]
      by_cases hMem : key.form ∈ forms base
      · rw [if_pos hMem, if_pos hMem, List.map_cons, List.filter_cons_of_neg (by simpa using hMem)]
      · rw [if_neg hMem, if_neg hMem, List.map_cons, List.filter_cons_of_pos (by simpa using hMem),
          List.append_assoc, List.singleton_append]
        refine congrArg (base.map Prod.fst ++ key :: ·) (List.filter_congr fun other hOther => ?_)
        have hApart : other.form ≠ key.form := by
          intro hSame
          have hForm : other.form ∈ forms rest := by
            rw [forms_eq_map_keys]
            exact List.mem_map_of_mem hOther
          exact hKey (show key.form ∈ forms rest from hSame ▸ hForm)
        simp [hApart]

theorem find?_merge_of_nodup {override : Members} (h : (forms override).Nodup) (base : Members) (key : Scalar) :
    find? key (merge base override) =
      match find? key override with
      | none => find? key base
      | some value => some (mergeValue (find? key base) value) :=
  find?_merge_of_once (List.nodup_iff_count_le_one.mp h key.form) base

theorem nodup_forms_merge {base override : Members} (hBase : (forms base).Nodup)
    (hOverride : (forms override).Nodup) : (forms (merge base override)).Nodup := by
  have hNew : ((override.map Prod.fst).filter (·.form ∉ forms base)).map Scalar.form =
      (forms override).filter (· ∉ forms base) := by
    simp only [forms, List.filter_map, List.map_map, Function.comp_def]
  rw [forms_eq_map_keys, keys_merge hOverride, List.map_append, ← forms_eq_map_keys, hNew]
  refine hBase.append (hOverride.filter _) fun form hOld hMem => ?_
  simpa [hOld] using List.of_mem_filter hMem

/-- A mapping is known by its keys, in order, and by what is found under them. -/
theorem eq_of_keys_eq {members others : Members} (hKeys : members.map Prod.fst = others.map Prod.fst)
    (hNodup : (forms members).Nodup) (hFind : ∀ key, find? key members = find? key others) :
    members = others := by
  induction members generalizing others with
  | nil =>
      rw [List.map_nil] at hKeys
      exact (List.map_eq_nil_iff.mp hKeys.symm).symm
  | cons member members ih =>
      cases others with
      | nil => cases hKeys
      | cons other others =>
          obtain ⟨key, value⟩ := member
          obtain ⟨key', value'⟩ := other
          obtain ⟨rfl, hRest⟩ := List.cons.inj hKeys
          obtain ⟨hKey, hNodup⟩ := List.nodup_cons.mp hNodup
          have hValue := hFind key
          rw [find?_cons, find?_cons, if_pos rfl, if_pos rfl] at hValue
          cases hValue
          refine congrArg ((key, value) :: ·) (ih hRest hNodup fun sought => ?_)
          have hFound := hFind sought
          rw [find?_cons, find?_cons] at hFound
          by_cases hSame : sought.form = key.form
          · have hForms : forms members = forms others := by
              rw [forms_eq_map_keys, hRest, ← forms_eq_map_keys]
            rw [find?_eq_none (hSame ▸ hKey), find?_eq_none (hForms ▸ hSame ▸ hKey)]
          · rwa [if_neg hSame, if_neg hSame] at hFound

theorem merge_nil_left {override : Members} (h : (forms override).Nodup) : merge [] override = override := by
  refine eq_of_keys_eq ?_ (nodup_forms_merge List.nodup_nil h) fun key => ?_
  · simp [keys_merge h, forms]
  · rw [find?_merge_of_nodup h]
    cases find? key override with
    | none => rfl
    | some value => exact congrArg some (mergeValue_none value)

/-! ### Paths -/

theorem at?_of_leaf {tree : Tree} (h : tree.isMapping = false) (key : Scalar) (path : List Scalar) :
    tree.at? (key :: path) = none := by
  cases tree with
  | map members => cases h
  | _ => rfl

theorem at?_map_cons (members : Members) (key : Scalar) (path : List Scalar) :
    (Tree.map members).at? (key :: path) = (find? key members).bind (·.at? path) := rfl

theorem isKeyed_of_at? {tree inner : Tree} (h : tree.isKeyed = true) {path : List Scalar}
    (hInner : tree.at? path = some inner) : inner.isKeyed = true := by
  induction path generalizing tree with
  | nil => exact Option.some.inj hInner ▸ h
  | cons key path ih =>
      cases tree with
      | map members =>
          obtain ⟨value, hValue, hInner⟩ := Option.bind_eq_some_iff.mp hInner
          obtain ⟨other, hMember⟩ := exists_mem_of_find? hValue
          exact ih ((isKeyed_map_iff.mp h).2 _ hMember) hInner
      | _ => cases hInner

theorem cuts_of_leaf {tree : Tree} (h : tree.isMapping = false) (key : Scalar) (path : List Scalar) :
    tree.Cuts (key :: path) :=
  ⟨[], key :: path, tree, rfl, List.cons_ne_nil _ _, rfl, h⟩

theorem not_cuts_nil (tree : Tree) : ¬tree.Cuts [] := by
  rintro ⟨front, back, value, hPath, hBack, _⟩
  exact hBack (List.append_eq_nil_iff.mp hPath.symm).2

/-- A path that begins at a mapping is cut off behind its first key, or not at all. -/
theorem cuts_map_cons_iff {members : Members} {key : Scalar} {path : List Scalar} :
    (Tree.map members).Cuts (key :: path) ↔ ∃ value, find? key members = some value ∧ value.Cuts path := by
  constructor
  · rintro ⟨front, back, leaf, hPath, hBack, hLeaf, hKind⟩
    cases front with
    | nil =>
        cases hLeaf
        cases hKind
    | cons first front =>
        obtain ⟨rfl, rfl⟩ := List.cons.inj hPath
        obtain ⟨value, hValue, hLeaf⟩ := Option.bind_eq_some_iff.mp hLeaf
        exact ⟨value, hValue, front, back, leaf, rfl, hBack, hLeaf, hKind⟩
  · rintro ⟨value, hValue, front, back, leaf, rfl, hBack, hLeaf, hKind⟩
    refine ⟨key :: front, back, leaf, rfl, hBack, ?_, hKind⟩
    rw [at?_map_cons, hValue]
    exact hLeaf

/-- What overrides with a mapping merges it with a mapping in the same place, or with an empty one. -/
theorem exists_merge_of_map {members : Members} (h : (forms members).Nodup) (base : Option Tree) :
    ∃ old, mergeValue base (.map members) = .map (merge old members) ∧
      (∀ key path, base.bind (·.at? (key :: path)) = (find? key old).bind (·.at? path)) ∧
      ((∀ tree ∈ base, tree.isKeyed = true) → (Tree.map old).isKeyed = true) := by
  cases base with
  | none => exact ⟨[], by rw [merge_nil_left h, mergeValue_none], fun _ _ => rfl, fun _ => rfl⟩
  | some tree =>
      cases hKind : tree.isMapping with
      | false =>
          refine ⟨[], by rw [merge_nil_left h, mergeValue_over_leaf hKind], fun key path => ?_, fun _ => rfl⟩
          exact at?_of_leaf hKind key path
      | true =>
          cases tree with
          | map old => exact ⟨old, rfl, fun _ _ => rfl, fun hKeyed => hKeyed _ rfl⟩
          | _ => cases hKind

/-- The value at a path once a tree has overridden what may have been there: what the override has at the
path on top of what was at it, and where the override has nothing what was there, unless the override cuts
the path off. -/
theorem at?_mergeValue {value : Tree} (h : value.isKeyed = true) (base : Option Tree) (path : List Scalar) :
    (∀ given, value.at? path = some given →
        (mergeValue base value).at? path = some (mergeValue (base.bind (·.at? path)) given)) ∧
      (value.Cuts path → (mergeValue base value).at? path = none) ∧
      (value.at? path = none → ¬value.Cuts path →
        (mergeValue base value).at? path = base.bind (·.at? path)) := by
  induction path generalizing base value with
  | nil =>
      refine ⟨?_, fun hCuts => absurd hCuts (not_cuts_nil value), nofun⟩
      rintro given ⟨⟩
      cases base <;> rfl
  | cons key path ih =>
      cases hKind : value.isMapping with
      | false =>
          rw [mergeValue_of_leaf hKind, at?_of_leaf hKind]
          exact ⟨nofun, fun _ => rfl, fun _ hCuts => absurd (cuts_of_leaf hKind key path) hCuts⟩
      | true =>
          obtain ⟨members, rfl⟩ : ∃ members, value = .map members := by
            cases value with
            | map members => exact ⟨members, rfl⟩
            | _ => cases hKind
          obtain ⟨hNodup, hMembers⟩ := isKeyed_map_iff.mp h
          obtain ⟨old, hMerge, hOld, _⟩ := exists_merge_of_map hNodup base
          -- All three are now about what stands under the first key, where the rest of the path begins.
          rw [hMerge, hOld, at?_map_cons, at?_map_cons, cuts_map_cons_iff, find?_merge_of_nodup hNodup]
          cases hInner : find? key members with
          | none =>
              refine ⟨nofun, ?_, fun _ _ => rfl⟩
              rintro ⟨inner, hFound, -⟩
              cases hFound
          | some inner =>
              obtain ⟨other, hMember⟩ := exists_mem_of_find? hInner
              obtain ⟨hGiven, hCuts, hKept⟩ := ih (hMembers _ hMember) (find? key old)
              refine ⟨hGiven, ?_, fun hNone hUncut => hKept hNone fun h => hUncut ⟨inner, rfl, h⟩⟩
              rintro ⟨found, hFound, h⟩
              cases hFound
              exact hCuts h

/-! ### Overriding twice -/

theorem merge_merge_of_values {base override : Members} (hBase : (forms base).Nodup)
    (hOverride : (forms override).Nodup)
    (hValues : ∀ key value, find? key override = some value →
      mergeValue (some (mergeValue (find? key base) value)) value = mergeValue (find? key base) value) :
    merge (merge base override) override = merge base override := by
  have hMerged := nodup_forms_merge hBase hOverride
  refine eq_of_keys_eq ?_ (nodup_forms_merge hMerged hOverride) fun key => ?_
  · -- No key is new the second time.
    have hNone : (override.map Prod.fst).filter (·.form ∉ forms (merge base override)) = [] := by
      refine List.filter_eq_nil_iff.mpr fun key hKey => ?_
      have hMem : key.form ∈ forms (merge base override) := by
        rw [forms_eq_map_keys, keys_merge hOverride, List.map_append, ← forms_eq_map_keys]
        by_cases hOld : key.form ∈ forms base
        · exact List.mem_append_left _ hOld
        · exact List.mem_append_right _ (List.mem_map_of_mem (List.mem_filter.mpr ⟨hKey, decide_eq_true hOld⟩))
      simpa using hMem
    rw [keys_merge hOverride, hNone, List.append_nil]
  · rw [find?_merge_of_nodup hOverride, find?_merge_of_nodup hOverride]
    cases hValue : find? key override with
    | none => rfl
    | some value => exact congrArg some (hValues key value hValue)

/-- What has overridden changes nothing when it overrides again. -/
theorem mergeValue_again {value : Tree} (h : value.isKeyed = true) (base : Option Tree)
    (hBase : ∀ tree ∈ base, tree.isKeyed = true) :
    mergeValue (some (mergeValue base value)) value = mergeValue base value := by
  induction value using mapping_induction generalizing base with
  | leaf value hKind => rw [mergeValue_of_leaf hKind, mergeValue_of_leaf hKind]
  | mapping members ih =>
      obtain ⟨hNodup, hMembers⟩ := isKeyed_map_iff.mp h
      obtain ⟨old, hMerge, _, hOld⟩ := exists_merge_of_map hNodup base
      obtain ⟨hOldNodup, hOldMembers⟩ := isKeyed_map_iff.mp (hOld hBase)
      rw [hMerge, mergeValue]
      refine congrArg Tree.map (merge_merge_of_values hOldNodup hNodup fun key value hValue => ?_)
      obtain ⟨other, hMember⟩ := exists_mem_of_find? hValue
      refine ih _ hMember (hMembers _ hMember) _ fun tree hTree => ?_
      obtain ⟨other, hOldMember⟩ := exists_mem_of_find? hTree
      exact hOldMembers _ hOldMember

/-! ### The laws -/

/-- What stands at the end of a path in a mapping. -/
def valueAt? (members : Members) (path : List Scalar) : Option Tree := (Tree.map members).at? path

theorem valueAt?_merge {override : Members} (h : (Tree.map override).isKeyed = true) (base : Members)
    (path : List Scalar) :
    (∀ given, valueAt? override path = some given →
        valueAt? (merge base override) path = some (mergeValue (valueAt? base path) given)) ∧
      ((Tree.map override).Cuts path → valueAt? (merge base override) path = none) ∧
      (valueAt? override path = none → ¬(Tree.map override).Cuts path →
        valueAt? (merge base override) path = valueAt? base path) :=
  at?_mergeValue h (some (.map base)) path

/-- The laws of merging. The override decides at every path at which it holds something that is no mapping.
Of what the base holds, and is no mapping, that stays which the override neither replaces nor cuts off, and
nothing else comes into the merged mapping. Where both hold a mapping, the keys of the base come first, each
in its place. To merge once more, or with an empty mapping on either side, changes nothing. -/
theorem merge_laws {base override : Members} (hBase : (Tree.map base).isKeyed = true)
    (hOverride : (Tree.map override).isKeyed = true) :
    (∀ path value, valueAt? override path = some value → value.isMapping = false →
        valueAt? (merge base override) path = some value) ∧
      (∀ path value, valueAt? base path = some value → value.isMapping = false →
        (∀ given, valueAt? override path = some given → valueAt? (merge base override) path = some given) ∧
          ((Tree.map override).Cuts path → valueAt? (merge base override) path = none) ∧
          (valueAt? override path = none → ¬(Tree.map override).Cuts path →
            valueAt? (merge base override) path = some value)) ∧
      (∀ path value, valueAt? (merge base override) path = some value → value.isMapping = false →
        valueAt? override path = some value ∨
          valueAt? base path = some value ∧ valueAt? override path = none ∧ ¬(Tree.map override).Cuts path) ∧
      (∀ path old given, valueAt? base path = some (.map old) → valueAt? override path = some (.map given) →
        valueAt? (merge base override) path = some (.map (merge old given)) ∧
          (merge old given).map Prod.fst =
            old.map Prod.fst ++ (given.map Prod.fst).filter (·.form ∉ forms old)) ∧
      merge (merge base override) override = merge base override ∧
      merge base [] = base ∧ merge [] base = base := by
  have hAt := valueAt?_merge hOverride base
  refine ⟨?_, ?_, ?_, ?_, ?_, rfl, merge_nil_left (isKeyed_map_iff.mp hBase).1⟩
  · intro path value hValue hKind
    rw [(hAt path).1 value hValue, mergeValue_of_leaf hKind]
  · intro path value hValue hKind
    obtain ⟨hGiven, hCuts, hKept⟩ := hAt path
    rw [hValue] at hGiven hKept
    exact ⟨fun given h => (hGiven given h).trans (congrArg some (mergeValue_over_leaf hKind given)), hCuts, hKept⟩
  · intro path value hValue hKind
    obtain ⟨hGiven, hCuts, hKept⟩ := hAt path
    cases hFound : valueAt? override path with
    | some given =>
        have hMerged : mergeValue (valueAt? base path) given = value :=
          Option.some.inj ((hGiven given hFound).symm.trans hValue)
        have hLeaf : given.isMapping = false := by
          rw [← isMapping_mergeValue (valueAt? base path), hMerged, hKind]
        rw [mergeValue_of_leaf hLeaf] at hMerged
        exact .inl (congrArg some hMerged)
    | none =>
        have hUncut : ¬(Tree.map override).Cuts path := fun h => by
          rw [hCuts h] at hValue
          cases hValue
        exact .inr ⟨(hKept hFound hUncut).symm.trans hValue, rfl, hUncut⟩
  · intro path old given hOld hGiven
    have hNodup := (isKeyed_map_iff.mp (isKeyed_of_at? hOverride hGiven)).1
    refine ⟨?_, keys_merge hNodup old⟩
    rw [(hAt path).1 _ hGiven, hOld, mergeValue]
  · have hAgain := mergeValue_again hOverride (some (.map base)) fun tree hTree =>
      Option.mem_some_iff.mp hTree ▸ hBase
    exact Tree.map.inj hAgain

/-- A text in the place of a mapping, a mapping in the place of a text, and a new key in a mapping of both. -/
theorem merge_laws_clashes :
    let base := ofMembers
      [("service", .obj [("url", .str "http://db.test"), ("pool", .obj [("size", .int 1)])]), ("mode", .str "sql")]
    let override := ofMembers
      [("mode", .obj [("tag", .str "cache")]), ("service", .obj [("pool", .int 7), ("trace", .null)])]
    let merged := merge base override
    ((Tree.map base).isKeyed = true ∧ (Tree.map override).isKeyed = true) ∧
      valueAt? merged [.str "service", .str "pool"] = some (.scalar (.int 7)) ∧
      valueAt? merged [.str "mode"] = some (.map (ofMembers [("tag", .str "cache")])) ∧
      valueAt? merged [.str "service", .str "pool", .str "size"] = none ∧
      valueAt? merged [.str "service", .str "url"] = some (.scalar (.str "http://db.test")) ∧
      (∃ service, valueAt? merged [.str "service"] = some (.map service) ∧
        service.map Prod.fst = [.str "url", .str "pool", .str "trace"]) ∧
      merge merged override = merged ∧ merge base [] = base ∧ merge [] base = base := by
  intro base override merged
  have hBase : (Tree.map base).isKeyed = true := by decide
  have hOverride : (Tree.map override).isKeyed = true := by decide
  obtain ⟨hGiven, hOld, -, hKeys, hAgain⟩ := merge_laws hBase hOverride
  have hUncut : ¬(Tree.map override).Cuts [.str "service", .str "url"] := by
    rintro h
    obtain ⟨service, hService, h⟩ := cuts_map_cons_iff.mp h
    cases hService
    obtain ⟨url, hUrl, -⟩ := cuts_map_cons_iff.mp h
    cases hUrl
  refine ⟨⟨hBase, hOverride⟩, hGiven _ _ rfl rfl, (hOld [.str "mode"] _ rfl rfl).1 _ rfl, ?_, ?_, ?_, hAgain⟩
  · refine (hOld [.str "service", .str "pool", .str "size"] _ rfl rfl).2.1 ?_
    exact ⟨[.str "service", .str "pool"], [.str "size"], .scalar (.int 7), rfl, by simp, rfl, rfl⟩
  · exact (hOld [.str "service", .str "url"] _ rfl rfl).2.2 rfl hUncut
  · obtain ⟨hMerged, hNames⟩ := hKeys [.str "service"] _ _ rfl rfl
    exact ⟨_, hMerged, hNames⟩

end QueryPlayground.Tree
