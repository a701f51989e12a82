import QueryPlayground.Proofs.Session.Journal

/-! Overlapping dispatches and what each of them does. A desk is a dispatcher with the dispatches that it has
begun, which may come to their ends in any order. Each dispatch keeps the stretches of the run in which it was
at work, so that what was done to the outside can be counted for every one of them. -/
namespace QueryPlayground

open Service

/-- A dispatch on a desk: what was asked, the stretches in which it was at work, and what has become of it. -/
structure Dispatch where
  query : String
  tag : String
  stretches : List Stretch
  state : Begun

namespace Dispatch

def readings (dispatch : Dispatch) : List (Binary64 × Nat) := dispatch.stretches.flatMap Stretch.readings

def draws (dispatch : Dispatch) : List Nat := dispatch.stretches.flatMap Stretch.draws

def replies (dispatch : Dispatch) : List Nat := dispatch.stretches.flatMap Stretch.replies

def effects (dispatch : Dispatch) : List Effect := dispatch.stretches.flatMap Stretch.effects

def doings (dispatch : Dispatch) : List Effect := dispatch.stretches.flatMap Stretch.doings

def isThrough (dispatch : Dispatch) : Bool :=
  match dispatch.state with
  | .waiting _ => false
  | .through _ => true

end Dispatch

/-- A step on a desk. A dispatch goes by its place in the order of starts, the first one at zero. -/
inductive Stroke where
  | start (query tag : String)
  | finish (place : Nat)
  deriving DecidableEq, Repr

/-- Whether a step begins a dispatch. -/
def Stroke.isStart : Stroke → Bool
  | .start .. => true
  | .finish _ => false

/-- The step that a dispatch was begun with. -/
def Dispatch.origin (dispatch : Dispatch) : Stroke := .start dispatch.query dispatch.tag

/-- A dispatcher, the trace so far, and the dispatches in the order in which they were started. -/
structure Desk where
  dispatcher : Dispatcher
  trace : Trace
  dispatches : List Dispatch

namespace Desk

def fresh (dispatcher : Dispatcher) : Desk := ⟨dispatcher, .start, []⟩

/-- One step. The end of a dispatch that does not wait changes nothing. -/
def step (outside : Outside) (desk : Desk) : Stroke → Desk
  | .start query tag =>
    let ((dispatcher, state), trace) := (desk.dispatcher.start query tag).perform outside desk.trace
    ⟨dispatcher, trace, desk.dispatches ++ [⟨query, tag, [⟨desk.trace, trace⟩], state⟩]⟩
  | .finish place =>
    match desk.dispatches[place]? with
    | some ⟨query, tag, stretches, .waiting flight⟩ =>
      let (result, trace) := (Dispatcher.finish flight).perform outside desk.trace
      ⟨desk.dispatcher, trace,
        desk.dispatches.set place ⟨query, tag, stretches ++ [⟨desk.trace, trace⟩], .through result⟩⟩
    | _ => desk

/-- A run: one step after the other. -/
def run (outside : Outside) (desk : Desk) (strokes : List Stroke) : Desk := strokes.foldl (step outside) desk

end Desk

/-! ### Every dispatch accounts for its part -/

theorem map_set_of_eq {α β : Type} {items : List α} {place : Nat} {old new : α} {f : α → β}
    (hOld : items[place]? = some old) (hNew : f new = f old) : (items.set place new).map f = items.map f := by
  obtain ⟨hPlace, rfl⟩ := List.getElem?_eq_some_iff.mp hOld
  rw [List.map_set, hNew, ← List.getElem_map f (h := by rwa [List.length_map]), List.set_getElem_self]

/-- What changes at one place only adds to the whole. -/
theorem perm_flatMap_set {α β : Type} {items : List α} {place : Nat} {old new : α} {part : α → List β}
    {added : List β} (hOld : items[place]? = some old) (hNew : part new = part old ++ added) :
    ((items.set place new).flatMap part).Perm (items.flatMap part ++ added) := by
  induction items generalizing place with
  | nil => cases hOld
  | cons item items ih =>
      cases place with
      | zero =>
          obtain rfl : item = old := Option.some.inj hOld
          rw [List.set_cons_zero, List.flatMap_cons, List.flatMap_cons, hNew, List.append_assoc, List.append_assoc]
          exact List.perm_append_comm.append_left _
      | succ place =>
          rw [List.set_cons_succ, List.flatMap_cons, List.flatMap_cons, List.append_assoc]
          exact (ih hOld).append_left _

namespace Desk

variable {outside : Outside}

/-- Every step that begins a dispatch has one, in the order of the steps. -/
theorem run_origins (desk : Desk) (strokes : List Stroke) :
    (desk.run outside strokes).dispatches.map Dispatch.origin =
      desk.dispatches.map Dispatch.origin ++ strokes.filter Stroke.isStart := by
  induction strokes generalizing desk with
  | nil => exact (List.append_nil _).symm
  | cons stroke strokes ih =>
      rw [run, List.foldl_cons]
      refine (ih (desk.step outside stroke)).trans ?_
      cases stroke with
      | start query tag =>
          rw [List.filter_cons_of_pos rfl]
          simp only [step, List.map_append, List.append_assoc]
          rfl
      | finish place =>
          rw [List.filter_cons_of_neg Bool.false_ne_true]
          unfold step
          dsimp only
          split
          next query tag stretches flight hDispatch =>
              exact congrArg (· ++ strokes.filter Stroke.isStart) (map_set_of_eq hDispatch rfl)
          next => rfl

section Accounts

variable {α : Type} (part : Stretch → List α) (whole : Trace → List α)
  (hPart : ∀ before after : Trace, before.Grows after → whole after = whole before ++ part ⟨before, after⟩)
include hPart

/-- Whatever is counted of a trace: one step adds to the whole what it adds to a dispatch. -/
theorem step_perm {desk : Desk} (stroke : Stroke)
    (h : (desk.dispatches.flatMap fun dispatch => dispatch.stretches.flatMap part).Perm (whole desk.trace)) :
    ((desk.step outside stroke).dispatches.flatMap fun dispatch => dispatch.stretches.flatMap part).Perm
      (whole (desk.step outside stroke).trace) := by
  cases stroke with
  | start query tag =>
      have hGrows := desk.dispatcher.grows_start query tag outside desk.trace
      simp only [step, List.flatMap_append, List.flatMap_singleton]
      rw [hPart _ _ hGrows]
      exact h.append_right _
  | finish place =>
      unfold step
      dsimp only
      split
      next query tag stretches flight hDispatch =>
          have hGrows := Dispatcher.grows_finish flight outside desk.trace
          dsimp only
          rw [hPart _ _ hGrows]
          refine (perm_flatMap_set hDispatch ?_).trans (h.append_right _)
          rw [List.flatMap_append, List.flatMap_singleton]
      next => exact h

/-- Every part of a run belongs to just one dispatch. -/
theorem run_perm {desk : Desk} (strokes : List Stroke)
    (h : (desk.dispatches.flatMap fun dispatch => dispatch.stretches.flatMap part).Perm (whole desk.trace)) :
    ((desk.run outside strokes).dispatches.flatMap fun dispatch => dispatch.stretches.flatMap part).Perm
      (whole (desk.run outside strokes).trace) := by
  induction strokes generalizing desk with
  | nil => exact h
  | cons stroke strokes ih => exact ih (step_perm part whole hPart stroke h)

end Accounts

theorem range_eq_append {before after : Nat} (h : before ≤ after) :
    List.range after = List.range before ++ List.range' before (after - before) := by
  have hAppend := List.range'_append_1 (s := 0) (m := before) (n := after - before)
  rw [Nat.zero_add, Nat.add_sub_of_le h] at hAppend
  rw [List.range_eq_range', List.range_eq_range', hAppend]

theorem readings_eq_append {before after : Trace} (h : before.Grows after) :
    after.readings.zipIdx = before.readings.zipIdx ++ (Stretch.mk before after).readings := by
  obtain ⟨readings, hReadings⟩ := h.readings
  rw [Stretch.readings_eq hReadings.symm, Stretch.zipIdx_readings hReadings.symm]

theorem effects_eq_append {before after : Trace} (h : before.Grows after) :
    after.effects = before.effects ++ (Stretch.mk before after).effects := by
  obtain ⟨effects, hEffects, _⟩ := h.effects
  rw [Stretch.effects_eq hEffects, hEffects]

/-- The dispatches account for the whole run: each reading, each draw, each reply and each effect is the work
of just one of them. -/
structure Accounted (desk : Desk) : Prop where
  readings : (desk.dispatches.flatMap Dispatch.readings).Perm desk.trace.readings.zipIdx
  draws : (desk.dispatches.flatMap Dispatch.draws).Perm (List.range desk.trace.draws)
  replies : (desk.dispatches.flatMap Dispatch.replies).Perm (List.range desk.trace.queryReplies)
  effects : (desk.dispatches.flatMap Dispatch.effects).Perm desk.trace.effects

theorem run_accounted (dispatcher : Dispatcher) (strokes : List Stroke) :
    ((fresh dispatcher).run outside strokes).Accounted where
  readings := run_perm Stretch.readings (fun trace => trace.readings.zipIdx)
    (fun _ _ h => readings_eq_append h) strokes (.refl _)
  draws := run_perm Stretch.draws (fun trace => List.range trace.draws)
    (fun _ _ h => range_eq_append h.draws) strokes (.refl _)
  replies := run_perm Stretch.replies (fun trace => List.range trace.queryReplies)
    (fun _ _ h => range_eq_append h.queryReplies) strokes (.refl _)
  effects := run_perm Stretch.effects Trace.effects (fun _ _ h => effects_eq_append h) strokes (.refl _)

end Desk

end QueryPlayground
