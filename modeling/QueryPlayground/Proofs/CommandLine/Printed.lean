import Mathlib.Tactic.SplitIfs
import QueryPlayground.CommandLine.Terminal
import QueryPlayground.Proofs.Json.RoundTrip

/-! How JSON texts are printed. The writer escapes every control character of a string, so that none is left
in a text but the line feeds between its parts. Nothing in it can be taken for a colouring sequence, and it is
printed just as it was written. -/
namespace QueryPlayground

namespace Json

/-- Characters that control nothing, and the line feed. -/
def IsPlain (c : Char) : Prop := 0x20 ≤ c.toNat ∨ c = '\n'

instance (c : Char) : Decidable (IsPlain c) := inferInstanceAs (Decidable (_ ∨ _))

theorem isPlain_of_all {s : List Char} (h : (s.all fun c => IsPlain c) = true) : ∀ c ∈ s, IsPlain c :=
  fun c hMem => of_decide_eq_true (List.all_eq_true.mp h c hMem)

theorem isPlain_hexDigit : ∀ n < 16, IsPlain (Text.hexDigit n) := by
  decide

theorem isPlain_unitEscape (n : Nat) : ∀ c ∈ unitEscape n, IsPlain c := by
  have hDigit (k : Nat) : IsPlain (Text.hexDigit (k % 16)) :=
    isPlain_hexDigit _ (Nat.mod_lt k (by decide))
  simp only [unitEscape, Text.hexDigits, List.nil_append, List.cons_append, List.forall_mem_cons, hDigit, true_and]
  exact ⟨by decide, by decide, List.forall_mem_nil _⟩

theorem isPlain_codeEscape (n : Nat) : ∀ c ∈ codeEscape n, IsPlain c := by
  unfold codeEscape
  split
  next => exact isPlain_unitEscape n
  next => exact List.forall_mem_append.mpr ⟨isPlain_unitEscape _, isPlain_unitEscape _⟩

theorem isPlain_escapeChar (asciiOnly : Bool) (c : Char) : ∀ d ∈ escapeChar asciiOnly c, IsPlain d := by
  unfold escapeChar
  split_ifs with hMark hSlash hFeed hReturn hTab hForm hBack hCode
  iterate 7 exact isPlain_of_all (by decide)
  · exact isPlain_codeEscape c.toNat
  · have hPlain : 0x20 ≤ c.toNat := by omega
    exact List.forall_mem_singleton.mpr (.inl hPlain)

theorem isPlain_writeString (asciiOnly : Bool) (s : String) : ∀ c ∈ writeString asciiOnly s, IsPlain c := by
  have hMark : IsPlain '"' := by decide
  refine List.forall_mem_cons.mpr ⟨hMark, List.forall_mem_append.mpr ⟨?_, List.forall_mem_singleton.mpr hMark⟩⟩
  intro c hc
  obtain ⟨d, _, hc⟩ := List.mem_flatMap.mp hc
  exact isPlain_escapeChar asciiOnly d c hc

theorem isPlain_writeInt (n : Int) : ∀ c ∈ writeInt n, IsPlain c := by
  refine List.forall_mem_append.mpr ⟨?_, ?_⟩
  · unfold Binary64.signText
    split <;> exact isPlain_of_all (by decide)
  · intro c hc
    have hDigit := isAsciiDigit_of_mem_toDigits hc
    simp only [Binary64.isAsciiDigit, Bool.and_eq_true, decide_eq_true_eq] at hDigit
    exact .inl (Nat.le_trans (by decide) hDigit.1)

theorem isPlain_lead (depth : Nat) : ∀ c ∈ Style.indented.lead depth, IsPlain c := by
  refine List.forall_mem_cons.mpr ⟨by decide, ?_⟩
  intro c hc
  rw [List.eq_of_mem_replicate hc]
  decide

theorem isPlain_writeItems (depth : Nat) {items : List Json}
    (h : ∀ item ∈ items, ∀ c ∈ writeAt .indented depth item, IsPlain c) :
    ∀ c ∈ writeItems .indented depth items, IsPlain c := by
  induction items with
  | nil => exact List.forall_mem_nil _
  | cons item items ih =>
      obtain ⟨hItem, hItems⟩ := List.forall_mem_cons.mp h
      simp only [writeItems, List.forall_mem_cons, List.forall_mem_append]
      exact ⟨by decide, ⟨isPlain_lead depth, hItem⟩, ih hItems⟩

theorem isPlain_writeMembers (depth : Nat) {members : List (String × Json)}
    (h : ∀ member ∈ members, ∀ c ∈ writeAt .indented depth member.2, IsPlain c) :
    ∀ c ∈ writeMembers .indented depth members, IsPlain c := by
  induction members with
  | nil => exact List.forall_mem_nil _
  | cons member members ih =>
      obtain ⟨hMember, hMembers⟩ := List.forall_mem_cons.mp h
      obtain ⟨name, value⟩ := member
      simp only [writeMembers, List.forall_mem_cons, List.forall_mem_append]
      exact ⟨by decide, ⟨⟨⟨isPlain_lead depth, isPlain_writeString _ _⟩, isPlain_of_all (by decide)⟩, hMember⟩,
        ih hMembers⟩

/-- A written text holds no control characters but its line feeds. -/
theorem Storable.isPlain_writeAt {v : Json} (hv : v.Storable) (depth : Nat) :
    ∀ c ∈ writeAt .indented depth v, IsPlain c := by
  induction hv generalizing depth with
  | null =>
      rw [writeAt]
      exact isPlain_of_all (by decide)
  | bool b =>
      cases b <;> rw [writeAt]
      all_goals exact isPlain_of_all (by decide)
  | int => exact isPlain_writeInt _
  | str s => exact isPlain_writeString _ s
  | @arr items each ih =>
      cases items with
      | nil =>
          rw [writeAt]
          exact isPlain_of_all (by decide)
      | cons item items =>
          obtain ⟨hItem, hItems⟩ := List.forall_mem_cons.mp fun item hMem => ih item hMem (depth + 1)
          simp only [writeAt, List.forall_mem_cons, List.forall_mem_append]
          exact ⟨by decide, ⟨⟨⟨isPlain_lead _, hItem⟩, isPlain_writeItems _ hItems⟩, isPlain_lead _⟩, by decide,
            List.forall_mem_nil _⟩
  | @obj members names each ih =>
      cases members with
      | nil =>
          rw [writeAt]
          exact isPlain_of_all (by decide)
      | cons member members =>
          obtain ⟨hMember, hMembers⟩ := List.forall_mem_cons.mp fun member hMem => ih member hMem (depth + 1)
          obtain ⟨name, value⟩ := member
          simp only [writeAt, List.forall_mem_cons, List.forall_mem_append]
          exact ⟨by decide, ⟨⟨⟨⟨⟨isPlain_lead _, isPlain_writeString _ _⟩, isPlain_of_all (by decide)⟩, hMember⟩,
            isPlain_writeMembers _ hMembers⟩, isPlain_lead _⟩, by decide, List.forall_mem_nil _⟩

end Json

namespace CommandLine

theorem withoutColour_eq_self {s : List Char} (h : '\x1b' ∉ s) (fuel : Nat) : withoutColour fuel s = s := by
  induction fuel generalizing s with
  | zero => rfl
  | succ fuel ih =>
      cases s with
      | nil => rfl
      | cons c s =>
          have hEscape : c ≠ '\x1b' := fun hSame => h (hSame ▸ List.mem_cons_self)
          rw [withoutColour, if_neg hEscape, ih fun hMem => h (List.mem_cons_of_mem _ hMem)]

/-- A JSON text is printed as it was written. -/
theorem printed_dump {v : Json} (hv : v.Storable) : printed v.dump.toList = v.dump.toList ++ ['\n'] := by
  have hEscape : '\x1b' ∉ v.dump.toList := by
    intro hMem
    rw [Json.dump, Json.write, String.toList_ofList] at hMem
    exact absurd (hv.isPlain_writeAt 0 _ hMem) (by decide)
  rw [printed, withoutColour_eq_self hEscape]

end CommandLine
end QueryPlayground
