/-! Looking up in lists of entries. What is found under a key stands in the list, and nothing is found just
under what is no key. -/
namespace QueryPlayground

variable {κ α : Type} [DecidableEq κ] {key : κ} {entries : List (κ × α)}

theorem lookup_cons (key other : κ) (value : α) (entries : List (κ × α)) :
    ((other, value) :: entries).lookup key = if key = other then some value else entries.lookup key := by
  by_cases hSame : key = other
  · simp [hSame]
  · simp [List.lookup_cons, beq_eq_false_iff_ne.mpr hSame, hSame]

theorem mem_of_lookup {value : α} (h : entries.lookup key = some value) : (key, value) ∈ entries := by
  obtain ⟨before, after, rfl, _⟩ := List.lookup_eq_some_iff.mp h
  simp

theorem mem_keys_of_lookup {value : α} (h : entries.lookup key = some value) :
    key ∈ entries.map Prod.fst :=
  List.mem_map_of_mem (mem_of_lookup h)

theorem lookup_eq_none (h : key ∉ entries.map Prod.fst) : entries.lookup key = none := by
  refine List.lookup_eq_none_iff.mpr fun entry hEntry => bne_iff_ne.mpr ?_
  rintro rfl
  exact h (List.mem_map_of_mem hEntry)

theorem notMem_keys_of_lookup (h : entries.lookup key = none) : key ∉ entries.map Prod.fst := by
  intro hMem
  obtain ⟨entry, hEntry, rfl⟩ := List.mem_map.mp hMem
  have hOther := List.lookup_eq_none_iff.mp h entry hEntry
  simp at hOther

/-- Values may be changed before or after they are looked up. -/
theorem lookup_map {β : Type} (f : α → β) (key : κ) (entries : List (κ × α)) :
    (entries.map fun (k, value) => (k, f value)).lookup key = (entries.lookup key).map f := by
  induction entries with
  | nil => rfl
  | cons entry entries ih =>
      obtain ⟨k, value⟩ := entry
      rw [List.map_cons, lookup_cons, lookup_cons, ih]
      split <;> rfl

end QueryPlayground
