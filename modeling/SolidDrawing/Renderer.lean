import SolidDrawing.Kernel
import SolidDrawing.Text.Blank

/-!
# Renderers

A renderer makes pages, places bodies, views and dimensions on them and writes them to files. As with kernels it is a
record of actions in some monad, with `Renderer.absent`, `Renderer.traced` and `Renderer.failingAt`.
-/

namespace SolidDrawing

/-- The identity of a page. -/
structure PageId where
  name : String
  deriving Repr, DecidableEq

/-- The identity of a body on a page. -/
structure BodyId where
  name : String
  deriving Repr, DecidableEq

/-- The identity of a view on a page. -/
structure ViewId where
  name : String
  deriving Repr, DecidableEq

/-- The kinds of objects that a renderer holds. -/
inductive PageObject where
  | page
  | body
  | view
  deriving Repr, DecidableEq

/-- The name of the kind in messages. -/
def PageObject.name : PageObject → String
  | page => "page"
  | body => "body"
  | view => "view"

/-- Why a renderer refuses a call. -/
inductive RenderError where
  | notAvailable (reason : String)
  | unknownObject (kind : PageObject) (name : String)
  | invalidRequest (reason : String)
  | exportFailed (reason : String)
  | io (reason : String)
  deriving Repr, DecidableEq

/-- The text of a render error. -/
def RenderError.message : RenderError → String
  | notAvailable reason => "Renderer not available: " ++ reason
  | unknownObject kind name => "Unknown " ++ kind.name ++ ": " ++ name
  | invalidRequest reason => "Invalid request: " ++ reason
  | exportFailed reason => "Export failed: " ++ reason
  | io reason => "IO error: " ++ reason

/-- What a dimension annotates. -/
inductive Annotation where
  | distance
  | diameter
  /-- Any other kind, as it was given. -/
  | other (kind : String)
  deriving Repr, DecidableEq

/-- The annotation of an abstract kind, in any letter case. No character outside ASCII has one of the letters of these
kinds as its small letter. -/
def Annotation.ofKind (kind : String) : Annotation :=
  let small := Text.lowerAscii kind
  if small = "linear" ∨ small = "distance" then distance
  else if small = "diameter" ∨ small = "radial" ∨ small = "radius" then diameter
  else other kind

/-- The name of an annotation on the page. -/
def Annotation.name : Annotation → String
  | distance => "Distance"
  | diameter => "Diameter"
  | other kind => kind

/-- The cutting plane of a section, by its normal; without one the renderer chooses. -/
structure SectionRequest (K : Type) where
  normal : Option (Vec3 K)
  deriving Repr, BEq, DecidableEq

/-- A view to be placed on a page. -/
structure ViewRequest (K : Type) where
  name : String
  direction : Vec3 K
  scale : Option K
  cut : Option (SectionRequest K)
  deriving Repr, BEq, DecidableEq

/-- A dimension to be attached to a view. -/
structure DimensionRequest where
  annotation : Annotation
  edges : List String
  label : String
  deriving Repr, DecidableEq

/-- A renderer of drawings over the coordinates `K`, acting in `m`. -/
structure Renderer (K : Type) (m : Type → Type) where
  name : String
  /-- The renderer can be used at all. -/
  available : Bool
  /-- `createPage title template` makes an empty page. -/
  createPage : String → String → ExceptT RenderError m PageId
  addBody : PageId → SolidRef → ExceptT RenderError m BodyId
  addView : PageId → BodyId → ViewRequest K → ExceptT RenderError m ViewId
  addDimension : PageId → ViewId → DimensionRequest → ExceptT RenderError m Unit
  /-- Brings a page up to date with what was added to it. -/
  recompute : PageId → ExceptT RenderError m Unit
  /-- Writes a page to the file at a path. -/
  exportPdf : PageId → String → ExceptT RenderError m Unit
  /-- Writes a page to the file at a path. -/
  exportSvg : PageId → String → ExceptT RenderError m Unit
  /-- Gives up everything the renderer holds. -/
  shutdown : m Unit

/-- A call to a renderer, with its answer. -/
inductive RenderEvent (K : Type) where
  | createPage (title template : String) (answer : Except RenderError PageId)
  | addBody (page : PageId) (solid : SolidRef) (answer : Except RenderError BodyId)
  | addView (page : PageId) (body : BodyId) (view : ViewRequest K) (answer : Except RenderError ViewId)
  | addDimension (page : PageId) (view : ViewId) (dimension : DimensionRequest) (answer : Except RenderError Unit)
  | recompute (page : PageId) (answer : Except RenderError Unit)
  | exportPdf (page : PageId) (path : String) (answer : Except RenderError Unit)
  | exportSvg (page : PageId) (path : String) (answer : Except RenderError Unit)
  | shutdown

namespace Renderer

variable {K : Type} {m : Type → Type} [Monad m]

/-- The renderer where there is none: it is not available and refuses every call. -/
def absent : Renderer K m :=
  let refuse {α : Type} : ExceptT RenderError m α := throw (.notAvailable "No drawing renderer available")
  { name := "null"
    available := false
    createPage := fun _ _ => refuse
    addBody := fun _ _ => refuse
    addView := fun _ _ _ => refuse
    addDimension := fun _ _ _ => refuse
    recompute := fun _ => refuse
    exportPdf := fun _ _ => refuse
    exportSvg := fun _ _ => refuse
    shutdown := pure () }

/-- An action followed by an event that shows its answer. -/
def noting {α : Type} (event : Except RenderError α → RenderEvent K) (action : ExceptT RenderError m α) :
    ExceptT RenderError (StateT (List (RenderEvent K)) m) α :=
  fun log => do
    let answer ← action.run
    return (answer, event answer :: log)

/-- The renderer with a record of all calls, the latest one first. -/
def traced (r : Renderer K m) : Renderer K (StateT (List (RenderEvent K)) m) :=
  { name := r.name
    available := r.available
    createPage := fun title template => noting (.createPage title template) (r.createPage title template)
    addBody := fun page solid => noting (.addBody page solid) (r.addBody page solid)
    addView := fun page body view => noting (.addView page body view) (r.addView page body view)
    addDimension := fun page view d => noting (.addDimension page view d) (r.addDimension page view d)
    recompute := fun page => noting (.recompute page) (r.recompute page)
    exportPdf := fun page path => noting (.exportPdf page path) (r.exportPdf page path)
    exportSvg := fun page path => noting (.exportSvg page path) (r.exportSvg page path)
    shutdown := fun log => do
      r.shutdown
      return ((), .shutdown :: log) }

/-- An action that is counted, and not carried out if its number is `n`. -/
def counting {α : Type} (n : Option Nat) (e : RenderError) (action : ExceptT RenderError m α) :
    ExceptT RenderError (StateT Nat m) α :=
  fun count => do return (← if n = some count then pure (.error e) else action.run, count + 1)

/-- The renderer whose call number `n`, counted from `0`, is not carried out and fails with `e`. -/
def failingAt (r : Renderer K m) (n : Option Nat) (e : RenderError) : Renderer K (StateT Nat m) :=
  { name := r.name
    available := r.available
    createPage := fun title template => counting n e (r.createPage title template)
    addBody := fun page solid => counting n e (r.addBody page solid)
    addView := fun page body view => counting n e (r.addView page body view)
    addDimension := fun page view d => counting n e (r.addDimension page view d)
    recompute := fun page => counting n e (r.recompute page)
    exportPdf := fun page path => counting n e (r.exportPdf page path)
    exportSvg := fun page path => counting n e (r.exportSvg page path)
    shutdown := fun count => do
      r.shutdown
      return ((), count) }

end Renderer

end SolidDrawing
