/-! Computations that may fail. A chain of them gives a result just if each of its parts does, and fails with
the fault of the first part that fails. So what holds of the results of the parts, and of their faults, is put
together to what holds of the chain. -/
namespace QueryPlayground

variable {ε ε' α β : Type}

theorem bind_eq_ok_iff {act : Except ε α} {next : α → Except ε β} {b : β} :
    act >>= next = .ok b ↔ ∃ a, act = .ok a ∧ next a = .ok b := by
  cases act with
  | error fault =>
      refine ⟨nofun, ?_⟩
      rintro ⟨a, hAct, _⟩
      cases hAct
  | ok a =>
      refine ⟨fun h => ⟨a, rfl, h⟩, ?_⟩
      rintro ⟨other, hAct, h⟩
      cases hAct
      exact h

theorem bind_eq_error_iff {act : Except ε α} {next : α → Except ε β} {fault : ε} :
    act >>= next = .error fault ↔ act = .error fault ∨ ∃ a, act = .ok a ∧ next a = .error fault := by
  cases act with
  | error other =>
      constructor
      · intro h
        exact .inl (congrArg Except.error (Except.error.inj h))
      · rintro (h | ⟨a, hAct, _⟩)
        · exact congrArg Except.error (Except.error.inj h)
        · cases hAct
  | ok a =>
      constructor
      · intro h
        exact .inr ⟨a, rfl, h⟩
      · rintro (h | ⟨other, hAct, h⟩)
        · cases h
        · cases hAct
          exact h

theorem toOption_eq_some_iff {act : Except ε α} {a : α} : act.toOption = some a ↔ act = .ok a := by
  cases act with
  | error fault => exact ⟨nofun, nofun⟩
  | ok other => simp [Except.toOption]

theorem mapError_eq_ok_iff {act : Except ε α} {f : ε → ε'} {a : α} :
    act.mapError f = .ok a ↔ act = .ok a := by
  cases act with
  | error fault => exact ⟨nofun, nofun⟩
  | ok other =>
      constructor
      · intro h
        exact congrArg Except.ok (Except.ok.inj h)
      · intro h
        exact congrArg Except.ok (Except.ok.inj h)

theorem mapError_eq_error_iff {act : Except ε α} {f : ε → ε'} {fault : ε'} :
    act.mapError f = .error fault ↔ ∃ cause, act = .error cause ∧ f cause = fault := by
  cases act with
  | error cause =>
      constructor
      · intro h
        exact ⟨cause, rfl, Except.error.inj h⟩
      · rintro ⟨other, hOther, rfl⟩
        cases hOther
        rfl
  | ok a =>
      refine ⟨nofun, ?_⟩
      rintro ⟨cause, hCause, -⟩
      cases hCause

theorem map_eq_error_iff {act : Except ε α} {f : α → β} {fault : ε} :
    act.map f = .error fault ↔ act = .error fault := by
  cases act with
  | error other => exact ⟨fun h => congrArg Except.error (Except.error.inj h),
      fun h => congrArg Except.error (Except.error.inj h)⟩
  | ok a => exact ⟨nofun, nofun⟩

/-- What gives a result for each item gives all of them, in order. -/
theorem mapM_eq_ok_of_forall {f : α → Except ε β} {g : α → β} {items : List α}
    (h : ∀ item ∈ items, f item = .ok (g item)) : items.mapM f = .ok (items.map g) := by
  induction items with
  | nil => rfl
  | cons item items ih =>
      have hItems := ih fun other hOther => h other (List.mem_cons_of_mem _ hOther)
      rw [List.mapM_cons, h item List.mem_cons_self, hItems]
      rfl

/-- One item without a result leaves all of them without. -/
theorem forall_of_mapM_eq_ok {f : α → Except ε β} {items : List α} {results : List β}
    (h : items.mapM f = .ok results) : ∀ item ∈ items, ∃ result, f item = .ok result := by
  induction items generalizing results with
  | nil => exact fun _ hItem => absurd hItem List.not_mem_nil
  | cons item items ih =>
      rw [List.mapM_cons, bind_eq_ok_iff] at h
      obtain ⟨result, hResult, hRest⟩ := h
      obtain ⟨others, hOthers, -⟩ := bind_eq_ok_iff.mp hRest
      exact List.forall_mem_cons.mpr ⟨⟨result, hResult⟩, ih hOthers⟩

/-! ### Results and faults -/

/-- What holds of the result of a computation, or of the fault that it fails with. -/
def Ends (good : α → Prop) (cause : ε → Prop) : Except ε α → Prop
  | .ok a => good a
  | .error fault => cause fault

variable {good : α → Prop} {good' : β → Prop} {cause : ε → Prop}

theorem Ends.bind {act : Except ε α} {next : α → Except ε β} (h : Ends good cause act)
    (hNext : ∀ a, good a → Ends good' cause (next a)) : Ends good' cause (act >>= next) := by
  cases act with
  | error fault => exact h
  | ok a => exact hNext a h

theorem Ends.map {act : Except ε α} {f : α → β} (h : Ends good cause act) (hResult : ∀ a, good a → good' (f a)) :
    Ends good' cause (act.map f) := by
  cases act with
  | error fault => exact h
  | ok a => exact hResult a h

theorem Ends.mono {good' : α → Prop} {cause' : ε → Prop} {act : Except ε α} (h : Ends good cause act)
    (hResult : ∀ a, good a → good' a) (hFault : ∀ fault, cause fault → cause' fault) : Ends good' cause' act := by
  cases act with
  | error fault => exact hFault fault h
  | ok a => exact hResult a h

/-- A computation that goes on only where nothing is wrong. -/
theorem Ends.unless {c : Prop} [Decidable c] {fault : ε} {next : PUnit → Except ε α} (hFault : c → cause fault)
    (h : Ends good cause (next ())) : Ends good cause (if c then throw fault >>= next else next ()) := by
  split
  next hWrong => exact hFault hWrong
  next => exact h

theorem Ends.of_ok {act : Except ε α} {a : α} (h : Ends good cause act) (hAct : act = .ok a) : good a := by
  rwa [hAct] at h

theorem Ends.of_error {act : Except ε α} {fault : ε} (h : Ends good cause act) (hAct : act = .error fault) :
    cause fault := by
  rwa [hAct] at h

end QueryPlayground
