import QueryPlayground.Engine.Sample
import QueryPlayground.Page.Model

/-!
The three regions that a host displays. Models are shown in the order in which they are ready, but one
that is older than what is shown is dropped.
-/
namespace QueryPlayground.Page

structure Surface where
  results : Html
  badge : List Char
  stats : Html
  lastSequence : Int
  deriving DecidableEq, Repr, Inhabited

namespace Surface

def empty : Surface := ⟨[], [], [], 0⟩

/-- Shows a placeholder in the results region and leaves the other two as they are. -/
def showLoading (surface : Surface) (content : Html) : Surface := { surface with results := content }

/-- Whether a model is older than what is shown. Models without a number are never old. -/
def isStale (surface : Surface) (model : Model) : Bool :=
  model.sequence != 0 && model.sequence < surface.lastSequence

/-- Shows a model in all three regions, unless it is stale. -/
def apply (surface : Surface) (model : Model) : Surface :=
  if surface.isStale model then surface
  else ⟨model.content, model.badge, model.statsHtml, max surface.lastSequence model.sequence⟩

end Surface

/-- A sample as a block that carries its query in an attribute. -/
def sampleBlock (sample : Sample) : Html :=
  let query := Html.escape sample.query
  Html.lines [
    "<div class=\"sample-query\" data-query=\"" ++ query ++ "\">",
    "  <div class=\"sample-query-title\">" ++ Html.escape sample.title ++ "</div>",
    "  <div class=\"sample-query-code\">" ++ query ++ "</div>",
    "</div>"]

def sampleList (samples : List Sample) : Html := Html.lines (samples.map sampleBlock)

end QueryPlayground.Page
