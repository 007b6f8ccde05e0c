import SolidDrawing.Renderer

/-!
# Calls to a renderer

Every call to a renderer has an answer, and leaves an event with both. An event tells which call was made, the error
that it failed with, and the page, the body or the view that it made.
-/

namespace SolidDrawing

/-- A call to a renderer. -/
inductive RenderCall (K : Type) where
  | createPage (title template : String)
  | addBody (page : PageId) (solid : SolidRef)
  | addView (page : PageId) (body : BodyId) (view : ViewRequest K)
  | addDimension (page : PageId) (view : ViewId) (dimension : DimensionRequest)
  | recompute (page : PageId)
  | exportPdf (page : PageId) (path : String)
  | exportSvg (page : PageId) (path : String)
  | shutdown

/-- Makes the call, and leaves an event. -/
def Renderer.make {K : Type} {m : Type → Type} [Monad m] (r : Renderer K m) : RenderCall K → m (RenderEvent K)
  | .createPage title template => return .createPage title template (← (r.createPage title template).run)
  | .addBody page solid => return .addBody page solid (← (r.addBody page solid).run)
  | .addView page body view => return .addView page body view (← (r.addView page body view).run)
  | .addDimension page view d => return .addDimension page view d (← (r.addDimension page view d).run)
  | .recompute page => return .recompute page (← (r.recompute page).run)
  | .exportPdf page path => return .exportPdf page path (← (r.exportPdf page path).run)
  | .exportSvg page path => return .exportSvg page path (← (r.exportSvg page path).run)
  | .shutdown => do
    r.shutdown
    return .shutdown

/-- The error of a failure. -/
def errorOf? {ε α : Type} : Except ε α → Option ε
  | .ok _ => none
  | .error e => some e

namespace RenderEvent

variable {K : Type}

/-- The call without its answer. -/
def call : RenderEvent K → RenderCall K
  | createPage title template _ => .createPage title template
  | addBody page solid _ => .addBody page solid
  | addView page body view _ => .addView page body view
  | addDimension page view d _ => .addDimension page view d
  | recompute page _ => .recompute page
  | exportPdf page path _ => .exportPdf page path
  | exportSvg page path _ => .exportSvg page path
  | shutdown => .shutdown

/-- The error that the call failed with. -/
def error? : RenderEvent K → Option RenderError
  | createPage _ _ answer => errorOf? answer
  | addBody _ _ answer => errorOf? answer
  | addView _ _ _ answer => errorOf? answer
  | addDimension _ _ _ answer => errorOf? answer
  | recompute _ answer => errorOf? answer
  | exportPdf _ _ answer => errorOf? answer
  | exportSvg _ _ answer => errorOf? answer
  | shutdown => none

/-- The call made the page. -/
def MadePage (page : PageId) (ev : RenderEvent K) : Prop := ∃ title template, ev = createPage title template (.ok page)

/-- The call put a body on a page. -/
def MadeBody (body : BodyId) (ev : RenderEvent K) : Prop := ∃ page solid, ev = addBody page solid (.ok body)

/-- The call placed a view of the given name. -/
def MadeView (name : String) (view : ViewId) (ev : RenderEvent K) : Prop :=
  ∃ page body request, ev = addView page body request (.ok view) ∧ request.name = name

end RenderEvent

end SolidDrawing
