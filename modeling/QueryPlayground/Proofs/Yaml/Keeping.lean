import QueryPlayground.Proofs.Except
import QueryPlayground.Yaml.Fault

/-! Activities on a state that may fail, as the reading of a settings text is made of. A property of states that
each part of an activity keeps is kept by the whole, and where no part fails but for some cause, the whole does
not either. -/
namespace QueryPlayground.Yaml

variable {σ α β : Type} {holds : σ → Prop} {cause : Fault → Prop} {result : α → Prop} {result' : β → Prop}

/-- Where a property holds of the state, it holds afterwards, and the result has a property of its own; or the
activity fails for a cause. -/
def Keeps (holds : σ → Prop) (cause : Fault → Prop) (act : StateT σ (Except Fault) α) (result : α → Prop) : Prop :=
  ∀ state, holds state → Ends (fun done => result done.1 ∧ holds done.2) cause (act.run state)

theorem keeps_pure {a : α} (h : result a) : Keeps holds cause (pure a) result := fun _ hState => ⟨h, hState⟩

theorem keeps_done (a : α) : Keeps holds cause (pure a) fun _ => True := keeps_pure trivial

theorem keeps_throw {fault : Fault} (h : cause fault) (result : α → Prop) :
    Keeps holds cause (throw fault) result := fun _ _ => h

/-- The state that is looked at has the property. -/
theorem keeps_get : Keeps holds cause get holds := fun _ hState => ⟨hState, hState⟩

theorem keeps_modify {f : σ → σ} (h : ∀ state, holds state → holds (f state)) :
    Keeps holds cause (modify f) fun _ => True := fun state hState => ⟨trivial, h state hState⟩

theorem keeps_modifyGet {f : σ → α × σ} (h : ∀ state, holds state → holds (f state).2) :
    Keeps holds cause (modifyGet f) fun _ => True := fun state hState => ⟨trivial, h state hState⟩

theorem keeps_lift {act : Except Fault α} (h : Ends result cause act) : Keeps holds cause (liftM act) result := by
  intro state hState
  cases act with
  | error fault => exact h
  | ok a => exact ⟨h, hState⟩

theorem Keeps.bind {act : StateT σ (Except Fault) α} {next : α → StateT σ (Except Fault) β}
    (h : Keeps holds cause act result) (hNext : ∀ a, result a → Keeps holds cause (next a) result') :
    Keeps holds cause (act >>= next) result' := by
  intro state hState
  rw [StateT.run_bind]
  exact (h state hState).bind fun done hDone => hNext done.1 hDone.1 done.2 hDone.2

/-- An activity whose result does not matter. -/
theorem Keeps.then {act : StateT σ (Except Fault) α} {next : α → StateT σ (Except Fault) β}
    (h : Keeps holds cause act result) (hNext : ∀ a, Keeps holds cause (next a) result') :
    Keeps holds cause (act >>= next) result' :=
  h.bind fun a _ => hNext a

theorem Keeps.mono {result' : α → Prop} {act : StateT σ (Except Fault) α} (h : Keeps holds cause act result)
    (hResult : ∀ a, result a → result' a) : Keeps holds cause act result' :=
  fun state hState => (h state hState).mono (fun done hDone => ⟨hResult done.1 hDone.1, hDone.2⟩) fun _ => id

theorem Keeps.ite {c : Prop} [Decidable c] {act other : StateT σ (Except Fault) α}
    (h : Keeps holds cause act result) (hOther : Keeps holds cause other result) :
    Keeps holds cause (if c then act else other) result := by
  split
  · exact h
  · exact hOther

/-- An activity that goes on only where nothing is wrong. -/
theorem Keeps.unless {c : Prop} [Decidable c] {fault : Fault} {next : PUnit → StateT σ (Except Fault) α}
    (hFault : c → cause fault) (h : Keeps holds cause (next ()) result) :
    Keeps holds cause (if c then throw fault >>= next else next ()) result := by
  split
  next hWrong => exact fun _ _ => hFault hWrong
  next => exact h

theorem Keeps.map {act : StateT σ (Except Fault) α} (h : Keeps holds cause act result) (f : α → β) :
    Keeps holds cause (f <$> act) fun _ => True := by
  rw [map_eq_pure_bind]
  exact h.then fun a => keeps_done _

theorem Keeps.forM {act : α → StateT σ (Except Fault) PUnit} (h : ∀ a, Keeps holds cause (act a) fun _ => True)
    (items : List α) : Keeps holds cause (items.forM act) fun _ => True := by
  induction items with
  | nil => exact keeps_done _
  | cons item items ih => exact (h item).then fun _ => ih

theorem Keeps.mapM {act : α → StateT σ (Except Fault) β} (h : ∀ a, Keeps holds cause (act a) fun _ => True)
    (items : List α) : Keeps holds cause (items.mapM act) fun _ => True := by
  induction items with
  | nil => exact keeps_done _
  | cons item items ih =>
      rw [List.mapM_cons]
      exact (h item).then fun _ => ih.then fun _ => keeps_done _

theorem Keeps.foldlM {act : β → α → StateT σ (Except Fault) β}
    (h : ∀ b a, result' b → Keeps holds cause (act b a) result') (items : List α) {b : β} (hStart : result' b) :
    Keeps holds cause (items.foldlM act b) result' := by
  induction items generalizing b with
  | nil => exact keeps_pure hStart
  | cons item items ih => exact (h b item hStart).bind fun next hNext => ih hNext

end QueryPlayground.Yaml
