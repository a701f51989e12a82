import QueryPlayground.Settings.Tree

/-!
Merging trees of settings. Where both trees hold a mapping the mappings are merged; elsewhere the
override replaces what was there.
-/
namespace QueryPlayground.Tree

/-- The members of a mapping. -/
abbrev Members := List (Scalar × Tree)

/-- The members of a mapping by the forms of their keys. -/
def formed (members : Members) : List (KeyForm × Tree) := members.map fun (key, value) => (key.form, value)

/-- The value under a key, or under one that is the same. -/
def find? (key : Scalar) (members : Members) : Option Tree := (formed members).lookup key.form

/-- Sets a member: of keys that are the same the first one and its place are kept, a new one comes last. -/
def setMember (key : Scalar) (value : Tree) : Members → Members
  | [] => [(key, value)]
  | (k, v) :: rest => if k.form = key.form then (k, value) :: rest else (k, v) :: setMember key value rest

mutual

/-- The members of `base` overridden by those of another mapping, one after the other. -/
def merge (base : Members) : Members → Members
  | [] => base
  | (key, value) :: rest => merge (setMember key (mergeValue (find? key base) value) base) rest

/-- What a value becomes when it overrides what may be there. -/
def mergeValue : Option Tree → Tree → Tree
  | some (.map base), .map override => .map (merge base override)
  | _, .map override => .map override
  | _, .scalar v => .scalar v
  | _, .list items => .list items
  | _, .held graph place => .held graph place

end

/-- The mapping under a key; anything else there counts as an empty mapping. -/
def section? (key : Scalar) (members : Members) : Members :=
  match members.lookup key with
  | some (.map inner) => inner
  | _ => []

/-- Sets a member of a section, which is made if it is no mapping. -/
def setInSection (sectionName name : String) (value : Tree) (members : Members) : Members :=
  setMember (.str sectionName)
    (.map (setMember (.str name) value (section? (.str sectionName) members))) members

end QueryPlayground.Tree
