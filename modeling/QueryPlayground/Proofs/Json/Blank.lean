import QueryPlayground.Json.Basic

/-! Values without their texts. Two values that are equal once every string and every name is blank
differ in nothing but the strings and names that they carry. -/
namespace QueryPlayground.Json

/-- Induction on values: what holds of the parts of an array or an object may be used for the whole. -/
@[elab_as_elim]
theorem parts_induction {motive : Json → Prop} (null : motive .null) (bool : ∀ b, motive (.bool b))
    (int : ∀ n, motive (.int n)) (float : ∀ x, motive (.float x)) (str : ∀ s, motive (.str s))
    (arr : ∀ items, (∀ item ∈ items, motive item) → motive (.arr items))
    (obj : ∀ members, (∀ member ∈ members, motive member.2) → motive (.obj members)) (v : Json) :
    motive v :=
  @Json.rec motive (fun items => ∀ item ∈ items, motive item)
    (fun members => ∀ member ∈ members, motive member.2) (fun member => motive member.2)
    null bool int float str arr obj
    (by simp) (fun _ _ hItem hItems => List.forall_mem_cons.mpr ⟨hItem, hItems⟩)
    (by simp) (fun _ _ hMember hMembers => List.forall_mem_cons.mpr ⟨hMember, hMembers⟩)
    (fun _ _ hValue => hValue) v

mutual

/-- A value with all its strings and names blank. -/
def blank : Json → Json
  | .str _ => .str ""
  | .arr items => .arr (blankItems items)
  | .obj members => .obj (blankMembers members)
  | v => v

def blankItems : List Json → List Json
  | [] => []
  | item :: items => blank item :: blankItems items

def blankMembers : List (String × Json) → List (String × Json)
  | [] => []
  | (_, value) :: members => ("", blank value) :: blankMembers members

end

end QueryPlayground.Json
