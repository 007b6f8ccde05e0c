import SolidDrawing.Drawing.Check
import SolidDrawing.Renderer
import SolidDrawing.Session

/-!
# Projecting solids onto pages

`Renderer.project` checks a description, and only then calls the renderer: a page with the solid on it, the views in
order, the dimensions in order, each bound to the view of its id that was added last, and the files.
-/

namespace SolidDrawing

/-- The files that a page is written to. -/
structure ExportTargets where
  pdf : Option String
  svg : Option String
  deriving Repr, DecidableEq

/-- A finished page, and the files it was written to. -/
structure Document where
  page : PageId
  pdf : Option String
  svg : Option String
  deriving Repr, DecidableEq

/-- Why a page is not finished. -/
inductive ProjectError where
  | invalid (fault : DrawingFault)
  | renderer (error : RenderError)
  deriving Repr, DecidableEq

/-- The text of a projection error. -/
def ProjectError.message : ProjectError → String
  | invalid fault => fault.message
  | renderer error => error.message

variable {K : Type} [Scalar K]

/-- What is asked of the renderer for a view. -/
def ViewSpec.request (v : ViewSpec K) : ViewRequest K :=
  ⟨v.id, v.direction, v.scale, if v.isSection then some ⟨v.sectionNormal⟩ else none⟩

/-- What is asked of the renderer for a dimension. -/
def DimensionSpec.request (d : DimensionSpec) : DimensionRequest := ⟨.ofKind d.kind, d.edges, d.label⟩

namespace Renderer

variable {m : Type → Type} [Monad m] (r : Renderer K m)

/-- Adds views in order to those `placed`, the latest one first. -/
def addViews (page : PageId) (body : BodyId) (placed : List (String × ViewId)) (views : List (ViewSpec K)) :
    ExceptT RenderError m (List (String × ViewId)) :=
  views.foldlM (fun placed v => do
    let id ← r.addView page body v.request
    return (v.id, id) :: placed) placed

/-- Adds dimensions in order, the first of them at position `index`. -/
def addDimensions (page : PageId) (placed : List (String × ViewId)) :
    Nat → List DimensionSpec → ExceptT ProjectError m Unit
  | _, [] => pure ()
  | index, d :: rest => do
    match placed.find? fun p => p.1 == d.viewId with
    | none => throw (.invalid (.unknownView d.viewId index))
    | some p =>
      (r.addDimension page p.2 d.request).adapt .renderer
      addDimensions page placed (index + 1) rest

/-- Writes a page to a file if one is asked for. -/
def exportTo (write : PageId → String → ExceptT RenderError m Unit) (page : PageId) :
    Option String → ExceptT RenderError m Unit
  | none => pure ()
  | some path => write page path

/-- Puts a solid on a new page as described, and writes the page. -/
def project (policy : Policy) (solid : SolidRef) (spec : DrawingSpec K) (targets : ExportTargets) :
    ExceptT ProjectError m Document :=
  match spec.fault? policy with
  | some fault => throw (.invalid fault)
  | none => do
    let page ← (r.createPage spec.pageTitle spec.template).adapt .renderer
    let body ← (r.addBody page solid).adapt .renderer
    let placed ← (r.addViews page body [] spec.views).adapt .renderer
    (r.recompute page).adapt .renderer
    r.addDimensions page placed 0 spec.dimensions
    (r.recompute page).adapt .renderer
    (exportTo r.exportPdf page targets.pdf).adapt .renderer
    (exportTo r.exportSvg page targets.svg).adapt .renderer
    return ⟨page, targets.pdf, targets.svg⟩

/-- Why no session with the renderer can be opened, if so. -/
def refusal? : Option RenderError :=
  if r.available then none else some (.notAvailable ("Renderer '" ++ r.name ++ "' is not available"))

/-- Runs an action inside a session with the renderer. -/
def within {ε α : Type} (ofRenderer : RenderError → ε) (action : ExceptT ε m α) : ExceptT ε m α :=
  Session.within (r.refusal?.map ofRenderer) r.shutdown action

end Renderer

end SolidDrawing
