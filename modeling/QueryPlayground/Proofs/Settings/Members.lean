import QueryPlayground.Proofs.Lookup
import QueryPlayground.Settings.Merge

/-! Looking up what was merged and set. A member that is set is found under its key and changes no other;
of two mappings that are merged the second one decides, as long as it holds no name twice. -/
namespace QueryPlayground

/-- No text stands twice among the keys of a mapping. Of keys that are no texts the same may come again,
as what is not a number does. -/
def SingleNames {α : Type} (members : List (Scalar × α)) : Prop :=
  members.Pairwise fun member other => ∀ name, member.1 = .str name → other.1 ≠ .str name

theorem SingleNames.map {α β : Type} {members : List (Scalar × α)} (h : SingleNames members) (f : α → β) :
    SingleNames (members.map fun (key, value) => (key, f value)) :=
  List.pairwise_map.mpr h

/-- The names in an object; other values have none. -/
def Json.memberNames : Json → List String
  | .obj members => members.map Prod.fst
  | _ => []

namespace Tree

/-! ### Overriding a value -/

/-- What is folded up in its graph counts as a whole and is no mapping. -/
def isMapping : Tree → Bool
  | .map _ => true
  | _ => false

theorem mergeValue_none (value : Tree) : mergeValue none value = value := by
  cases value <;> rfl

theorem mergeValue_of_leaf {value : Tree} (h : value.isMapping = false) (base : Option Tree) :
    mergeValue base value = value := by
  cases value with
  | map members => cases h
  | _ => rcases base with _ | (_ | _ | _ | _) <;> rfl

theorem isMapping_mergeValue (base : Option Tree) (value : Tree) :
    (mergeValue base value).isMapping = value.isMapping := by
  cases value with
  | map members => rcases base with _ | (_ | _ | _ | _) <;> rfl
  | _ => rw [mergeValue_of_leaf rfl]

theorem mergeValue_over_leaf {base : Tree} (h : base.isMapping = false) (value : Tree) :
    mergeValue (some base) value = value := by
  cases base with
  | map members => cases h
  | _ => cases value <;> rfl

/-! ### Members -/

/-- The forms of the keys of a mapping, in order. -/
def forms (members : Members) : List KeyForm := members.map fun member => member.1.form

theorem forms_eq_map_keys (members : Members) : forms members = (members.map Prod.fst).map Scalar.form := by
  rw [forms, List.map_map]
  rfl

theorem find?_cons (key other : Scalar) (value : Tree) (members : Members) :
    find? key ((other, value) :: members) = if key.form = other.form then some value else find? key members :=
  lookup_cons key.form other.form value (formed members)

theorem find?_eq_none {key : Scalar} {members : Members} (h : key.form ∉ forms members) :
    find? key members = none := by
  refine lookup_eq_none ?_
  rw [formed, List.map_map]
  exact h

/-- Only a text has the form of a text. -/
theorem form_eq_str_iff {key : Scalar} {name : String} : key.form = (Scalar.str name).form ↔ key = .str name := by
  refine ⟨fun h => ?_, congrArg Scalar.form⟩
  have hForm : key.keyForm none = .plain (.str name) := h
  cases key with
  | float x =>
      cases x with
      | nan => cases hForm
      | _ =>
          simp only [Scalar.keyForm] at hForm
          split at hForm <;> cases hForm
  | instant time =>
      simp only [Scalar.keyForm] at hForm
      cases hMoment : time.moment? <;> rw [hMoment] at hForm <;> cases hForm
  | _ => cases hForm <;> rfl

/-- Names are found as they are. -/
theorem find?_str (name : String) (members : Members) : find? (.str name) members = members.lookup (.str name) := by
  induction members with
  | nil => rfl
  | cons member members ih =>
      obtain ⟨key, value⟩ := member
      have hForm : (Scalar.str name).form = key.form ↔ Scalar.str name = key := by
        rw [eq_comm, form_eq_str_iff, eq_comm]
      rw [find?_cons, lookup_cons, ih]
      simp only [hForm]

theorem count_le_one_of_singleNames {members : Members} (h : SingleNames members) (name : String) :
    (forms members).count (Scalar.str name).form ≤ 1 := by
  induction members with
  | nil => simp [forms]
  | cons member members ih =>
      obtain ⟨hOthers, hRest⟩ := List.pairwise_cons.mp h
      rw [forms, List.map_cons, List.count_cons, ← forms]
      split
      next hName =>
          -- Behind a name the same name does not come again.
          have hNone : (Scalar.str name).form ∉ forms members := by
            intro hMem
            obtain ⟨other, hOther, hSame⟩ := List.mem_map.mp hMem
            exact hOthers other hOther name (form_eq_str_iff.mp (eq_of_beq hName)) (form_eq_str_iff.mp hSame)
          have hZero := List.count_eq_zero.mpr hNone
          omega
      next => exact ih hRest

/-- A member that is set is found, and no other member changes. -/
theorem find?_setMember (key other : Scalar) (value : Tree) (members : Members) :
    find? other (setMember key value members) =
      if other.form = key.form then some value else find? other members := by
  induction members with
  | nil => rw [setMember, find?_cons]
  | cons member members ih =>
      obtain ⟨k, v⟩ := member
      rw [setMember]
      split
      next hSame =>
          rw [find?_cons, find?_cons, hSame]
          split <;> rfl
      next hDifferent =>
          rw [find?_cons, find?_cons, ih]
          split
          next hFound => rw [if_neg (hFound ▸ hDifferent)]
          next => rfl

theorem lookup_setMember (name other : String) (value : Tree) (members : Members) :
    (setMember (.str name) value members).lookup (.str other) =
      if other = name then some value else members.lookup (.str other) := by
  rw [← find?_str, ← find?_str, find?_setMember]
  simp only [form_eq_str_iff, Scalar.str.injEq]

/-- What is merged in is found under its key, on top of what was there, as long as the key comes once. -/
theorem find?_merge_of_once {override : Members} {key : Scalar} (h : (forms override).count key.form ≤ 1)
    (base : Members) :
    find? key (merge base override) =
      match find? key override with
      | none => find? key base
      | some value => some (mergeValue (find? key base) value) := by
  induction override generalizing base with
  | nil => rfl
  | cons member rest ih =>
      obtain ⟨other, value⟩ := member
      rw [forms, List.map_cons, List.count_cons, ← forms] at h
      rw [merge, ih (by omega), find?_setMember, find?_cons]
      by_cases hKey : key.form = other.form
      · rw [if_pos (beq_iff_eq.mpr hKey.symm)] at h
        have hNone : key.form ∉ forms rest := List.count_eq_zero.mp (by omega)
        have hOld : find? other base = find? key base := by rw [find?, find?, hKey]
        rw [find?_eq_none hNone, if_pos hKey, if_pos hKey, hOld]
      · rw [if_neg hKey, if_neg hKey]

theorem lookup_merge {override : Members} (h : SingleNames override) (base : Members) (name : String) :
    (merge base override).lookup (.str name) =
      match override.lookup (.str name) with
      | none => base.lookup (.str name)
      | some value => some (mergeValue (base.lookup (.str name)) value) := by
  have hMerge := find?_merge_of_once (count_le_one_of_singleNames h name) base
  simpa only [find?_str] using hMerge

/-! ### Sections -/

/-- The value of a setting: what stands under its name in its section. A section that is no mapping has no
settings. -/
def settingIn? (members : Members) (sectionName name : String) : Option Tree :=
  (section? (.str sectionName) members).lookup (.str name)

theorem section?_of_map {members inner : Members} {key : Scalar}
    (h : members.lookup key = some (.map inner)) : section? key members = inner := by
  rw [section?, h]

theorem section?_eq_nil {members : Members} {key : Scalar}
    (h : ∀ inner, members.lookup key ≠ some (.map inner)) : section? key members = [] := by
  unfold section?
  split
  next inner hInner => exact absurd hInner (h inner)
  next => rfl

theorem settingIn?_eq_some_iff {members : Members} {sectionName name : String} {value : Tree} :
    settingIn? members sectionName name = some value ↔
      ∃ inner, members.lookup (.str sectionName) = some (.map inner) ∧ inner.lookup (.str name) = some value := by
  constructor
  · intro h
    by_cases hMap : ∃ inner, members.lookup (.str sectionName) = some (.map inner)
    · obtain ⟨inner, hInner⟩ := hMap
      rw [settingIn?, section?_of_map hInner] at h
      exact ⟨inner, hInner, h⟩
    · rw [settingIn?, section?_eq_nil fun inner hInner => hMap ⟨inner, hInner⟩] at h
      cases h
  · rintro ⟨inner, hInner, h⟩
    rw [settingIn?, section?_of_map hInner, h]

/-- A setting that is set has its value, and no other setting changes, whatever its section was before. -/
theorem settingIn?_setInSection (sectionName name other otherName : String) (value : Tree)
    (members : Members) :
    settingIn? (setInSection sectionName name value members) other otherName =
      if other = sectionName ∧ otherName = name then some value
      else settingIn? members other otherName := by
  by_cases hSection : other = sectionName
  · subst hSection
    have hInner := lookup_setMember other other
      (.map (setMember (.str name) value (section? (.str other) members))) members
    rw [if_pos rfl] at hInner
    rw [settingIn?, setInSection, section?_of_map hInner, lookup_setMember]
    simp only [true_and, settingIn?]
  · rw [if_neg fun hBoth => hSection hBoth.1, settingIn?, settingIn?, section?, section?, setInSection,
      lookup_setMember, if_neg hSection]

/-- Whether what stands under a name, if anything does, is a mapping. -/
def IsSection (members : Members) (sectionName : String) : Prop :=
  ∀ value, members.lookup (.str sectionName) = some value → ∃ inner, value = .map inner

instance (members : Members) (sectionName : String) : Decidable (IsSection members sectionName) :=
  match h : members.lookup (.str sectionName) with
  | none => isTrue fun value hFound => by rw [h] at hFound; cases hFound
  | some (.map inner) => isTrue fun value hFound => ⟨inner, (Option.some.inj (h.symm.trans hFound)).symm⟩
  | some (.scalar _) => isFalse fun hIs => by obtain ⟨inner, hInner⟩ := hIs _ h; cases hInner
  | some (.list _) => isFalse fun hIs => by obtain ⟨inner, hInner⟩ := hIs _ h; cases hInner
  | some (.held _ _) => isFalse fun hIs => by obtain ⟨inner, hInner⟩ := hIs _ h; cases hInner

/-- Under no name stands a mapping that is still folded up in its graph. -/
def Unfolded (members : Members) : Prop :=
  ∀ name graph place, members.lookup (.str name) = some (.held graph place) →
    ∀ inner, graph.piece place ≠ .map inner

/-- A setting of the mapping that is merged in replaces the one that was there. One that is not given stays,
unless something else stands in the place of its section. -/
theorem settingIn?_merge {base override : Members} (h : SingleNames override)
    (hSections : ∀ name inner, override.lookup (.str name) = some (.map inner) → SingleNames inner)
    {sectionName name : String} {value : Scalar}
    (hBase : settingIn? base sectionName name = some (.scalar value)) :
    (IsSection override sectionName → settingIn? (merge base override) sectionName name =
        some ((settingIn? override sectionName name).getD (.scalar value))) ∧
      (¬IsSection override sectionName → settingIn? (merge base override) sectionName name = none) := by
  obtain ⟨inner, hInner, hBase⟩ := settingIn?_eq_some_iff.mp hBase
  have hLookup := lookup_merge h base sectionName
  rw [hInner] at hLookup
  cases hValue : override.lookup (.str sectionName) with
  | none =>
      rw [hValue] at hLookup
      have hAbsent : settingIn? override sectionName name = none := by
        rw [settingIn?, section?_eq_nil fun inner hInner => by rw [hValue] at hInner; cases hInner]
        rfl
      refine ⟨fun _ => ?_, fun hOther => absurd (fun value hFound => ?_) hOther⟩
      · rw [hAbsent, settingIn?, section?_of_map hLookup, hBase]
        rfl
      · rw [hValue] at hFound
        cases hFound
  | some given =>
      rw [hValue] at hLookup
      by_cases hMap : ∃ members, given = .map members
      · obtain ⟨members, rfl⟩ := hMap
        refine ⟨fun _ => ?_, fun hOther => absurd (fun value hFound => ?_) hOther⟩
        · rw [settingIn?, settingIn?, section?_of_map hLookup, section?_of_map hValue,
            lookup_merge (hSections _ _ hValue), hBase]
          cases members.lookup (.str name) with
          | none => rfl
          | some value => exact congrArg some (mergeValue_over_leaf rfl value)
        · rw [hValue] at hFound
          exact ⟨members, (Option.some.inj hFound).symm⟩
      · refine ⟨fun hSection => absurd (hSection given hValue) hMap, fun _ => ?_⟩
        have hReplaced : mergeValue (some (.map inner)) given = given := by
          cases given with
          | map members => exact absurd ⟨members, rfl⟩ hMap
          | _ => rfl
        dsimp only at hLookup
        rw [hReplaced] at hLookup
        rw [settingIn?, section?_eq_nil fun members hFound => hMap ⟨members, ?_⟩]
        · rfl
        · rw [hLookup] at hFound
          exact Option.some.inj hFound

/-! ### Folded sections -/

theorem mergeValue_eq_held {base : Option Tree} {value : Tree} {graph : Graph} {place : Nat}
    (h : mergeValue base value = .held graph place) : value = .held graph place := by
  cases value with
  | map members => rcases base with _ | (_ | _ | _ | _) <;> cases h
  | _ => rcases base with _ | (_ | _ | _ | _) <;> exact h

theorem Unfolded.merge {base override : Members} (h : SingleNames override) (hBase : Unfolded base)
    (hOverride : Unfolded override) : Unfolded (merge base override) := by
  intro name graph place hFound
  rw [lookup_merge h] at hFound
  cases hValue : override.lookup (.str name) with
  | none =>
      rw [hValue] at hFound
      exact hBase name graph place hFound
  | some value =>
      rw [hValue] at hFound
      have hHeld := mergeValue_eq_held (Option.some.inj hFound)
      exact hOverride name graph place (hHeld ▸ hValue)

theorem Unfolded.setInSection {members : Members} (h : Unfolded members) (sectionName name : String)
    (value : Tree) : Unfolded (setInSection sectionName name value members) := by
  intro other graph place hFound
  rw [Tree.setInSection, lookup_setMember] at hFound
  split at hFound
  next => cases hFound
  next => exact h other graph place hFound

/-- A mapping as it is read from a file: it holds no name twice, nor does a section of it, and its sections
are unfolded. -/
structure Settled (members : Members) : Prop where
  single : SingleNames members
  sections : ∀ name inner, members.lookup (.str name) = some (.map inner) → SingleNames inner
  unfolded : Unfolded members

theorem settled_nil : Settled [] where
  single := .nil
  sections := by
    intro name inner h
    cases h
  unfolded := by
    intro name graph place h
    cases h

/-! ### Mappings of JSON -/

theorem display_str (text : String) : (Tree.scalar (.str text)).display = text :=
  String.ofList_toList

theorem ofMembers_eq_map (members : List (String × Json)) :
    ofMembers members = members.map fun (key, value) => (.str key, ofJson value) := by
  induction members with
  | nil => rfl
  | cons member members ih => rw [ofMembers, List.map_cons, ih]

theorem lookup_ofMembers (members : List (String × Json)) (name : String) :
    (ofMembers members).lookup (.str name) = (members.lookup name).map ofJson := by
  induction members with
  | nil => rfl
  | cons member members ih =>
      obtain ⟨key, value⟩ := member
      rw [ofMembers, lookup_cons, lookup_cons, ih]
      simp only [Scalar.str.injEq]
      split <;> rfl

theorem singleNames_ofMembers {members : List (String × Json)} (h : (members.map Prod.fst).Nodup) :
    SingleNames (ofMembers members) := by
  rw [ofMembers_eq_map]
  refine List.pairwise_map.mpr ((List.pairwise_map.mp h).imp ?_)
  intro member other hDifferent name hName hOther
  exact hDifferent ((Scalar.str.inj hName).trans (Scalar.str.inj hOther).symm)

/-- An object of JSON is settled as long as neither it nor an object in it holds a name twice. -/
theorem settled_ofMembers {members : List (String × Json)} (h : (members.map Prod.fst).Nodup)
    (hSections : ∀ name inner, members.lookup name = some (.obj inner) → (inner.map Prod.fst).Nodup) :
    Settled (ofMembers members) where
  single := singleNames_ofMembers h
  sections := by
    intro name inner hInner
    rw [lookup_ofMembers, Option.map_eq_some_iff] at hInner
    obtain ⟨value, hValue, hTree⟩ := hInner
    cases value with
    | obj others =>
        cases hTree
        exact singleNames_ofMembers (hSections name others hValue)
    | _ => cases hTree
  unfolded := by
    intro name graph place hHeld
    rw [lookup_ofMembers, Option.map_eq_some_iff] at hHeld
    obtain ⟨value, _, hTree⟩ := hHeld
    cases value <;> cases hTree

theorem settled_of_memberNames {members : List (String × Json)} (h : (members.map Prod.fst).Nodup)
    (hSections : ∀ member ∈ members, member.2.memberNames.Nodup) : Settled (ofMembers members) :=
  settled_ofMembers h fun _ _ hInner => hSections _ (mem_of_lookup hInner)

/-- One section is enough for a mapping that is settled. -/
theorem settled_section (sectionName : String) {members : List (String × Json)}
    (h : (members.map Prod.fst).Nodup) : Settled (ofMembers [(sectionName, .obj members)]) := by
  refine settled_ofMembers (List.pairwise_singleton _ _) ?_
  intro name inner hInner
  rcases List.mem_singleton.mp (mem_of_lookup hInner) with ⟨rfl, rfl⟩
  exact h

end Tree

namespace Graph

variable {graph : Graph} {depth place : Nat}

theorem tree_eq_map {members : Tree.Members} (h : graph.tree (depth + 1) place = .map members) :
    ∃ inner, graph.piece place = .map inner ∧
      members = inner.map fun (key, value) => (key, graph.tree depth value) := by
  unfold tree at h
  split at h
  next => cases h
  next inner hPiece =>
      cases h
      exact ⟨inner, hPiece, rfl⟩
  next => cases h

theorem tree_eq_held {other : Graph} {otherPlace : Nat}
    (h : graph.tree (depth + 1) place = .held other otherPlace) (inner : List (Scalar × Nat)) :
    other.piece otherPlace ≠ .map inner := by
  unfold tree at h
  split at h
  next => cases h
  next => cases h
  next hOther =>
      cases h
      exact hOther inner

/-- The tree of a graph in which no mapping holds a name twice. -/
theorem tree_settled (h : ∀ place members, graph.piece place = .map members → SingleNames members)
    {members : Tree.Members} (hTree : graph.tree (depth + 2) place = .map members) :
    Tree.Settled members := by
  obtain ⟨inner, hPiece, rfl⟩ := tree_eq_map hTree
  refine ⟨(h place inner hPiece).map _, ?_, ?_⟩
  · intro name members hSection
    rw [lookup_map] at hSection
    obtain ⟨value, _, hValue⟩ := Option.map_eq_some_iff.mp hSection
    obtain ⟨inner, hPiece, rfl⟩ := tree_eq_map hValue
    exact (h value inner hPiece).map _
  · intro name other otherPlace hSection
    rw [lookup_map] at hSection
    obtain ⟨value, _, hValue⟩ := Option.map_eq_some_iff.mp hSection
    exact tree_eq_held hValue

end Graph
end QueryPlayground
