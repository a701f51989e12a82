import QueryPlayground.Page.Model

/-! Outcomes that have a page. Only a document may have none, if it is no record; the page of any other
outcome can always be made, and a model is the page of its outcome. -/
namespace QueryPlayground

/-- A document is a record with members; all other outcomes are what they are. -/
def Outcome.HoldsRecord : Outcome → Prop
  | .document data => ∃ members, data = .obj members
  | _ => True

namespace Page

theorem exists_regions_of_holdsRecord {outcome : Outcome} (h : outcome.HoldsRecord) :
    ∃ page, regions outcome = .ok page := by
  cases outcome with
  | document data =>
      obtain ⟨members, rfl⟩ := h
      exact ⟨_, rfl⟩
  | _ => exact ⟨_, rfl⟩

theorem render_of_regions {outcome : Outcome} {page : Html × Panel} (h : regions outcome = .ok page)
    (elapsed : Binary64) (sequence : Int) : ∃ model, render outcome elapsed sequence = .ok model := by
  unfold render
  rw [h]
  exact ⟨_, rfl⟩

theorem regions_of_render {outcome : Outcome} {elapsed : Binary64} {sequence : Int} {model : Model}
    (h : render outcome elapsed sequence = .ok model) :
    regions outcome = .ok (model.content, model.stats) ∧ model.statsHtml = model.stats.toHtml ∧
      model.sequence = sequence := by
  unfold render at h
  cases hRegions : regions outcome with
  | error fault =>
      rw [hRegions] at h
      cases h
  | ok page =>
      rw [hRegions] at h
      cases h
      exact ⟨rfl, rfl, rfl⟩

end Page
end QueryPlayground
