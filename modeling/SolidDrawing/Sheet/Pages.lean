import SolidDrawing.Disk
import SolidDrawing.Sheet.Pdf
import SolidDrawing.Sheet.Svg

/-!
# The sheet renderer

Pages hold bodies, views and dimensions as they are added. `recompute` lays a page out; only a page that has not been
changed since then can be written. A call that fails leaves all pages as they were.
-/

namespace SolidDrawing

/-- A page: what was added to it, and how it was last laid out. A page is stale after every change. -/
structure Page (K : Type) where
  title : String
  template : String
  bodies : List (BodyId × SolidRef)
  views : List (PlacedView K)
  layout : Option (Layout K)
  stale : Bool
  deriving Repr, BEq, DecidableEq

/-- Supplies of names. -/
structure SheetNames where
  page : Nat → PageId
  body : Nat → BodyId
  view : Nat → ViewId

/-- Names made of the kind and a number. -/
def SheetNames.numbered : SheetNames :=
  ⟨fun n => ⟨"page" ++ toString n⟩, fun n => ⟨"body" ++ toString n⟩, fun n => ⟨"view" ++ toString n⟩⟩

/-- Pages under their names, and how many names of each kind are used up. -/
structure Sheets (K : Type) where
  config : SheetConfig K
  names : SheetNames
  pagesDrawn : Nat
  bodiesDrawn : Nat
  viewsDrawn : Nat
  pages : List (PageId × Page K)

namespace Sheets

variable {K : Type}

/-- The name of the renderer. -/
def rendererName : String := "sheet"

/-- No pages. -/
def empty (config : SheetConfig K) (names : SheetNames) : Sheets K := ⟨config, names, 0, 0, 0, []⟩

def pageCount (s : Sheets K) : Nat := s.pages.length

/-- The page under a name. -/
def page (s : Sheets K) (id : PageId) : Except RenderError (Page K) :=
  match s.pages.find? fun entry => entry.1 == id with
  | some entry => .ok entry.2
  | none => .error (.unknownObject .page id.name)

/-- The layout of a page as of its last `recompute`. -/
def layout? (s : Sheets K) (id : PageId) : Option (Layout K) :=
  match s.page id with
  | .ok page => page.layout
  | .error _ => none

/-- Replaces the page under a name. -/
def setPage (s : Sheets K) (id : PageId) (page : Page K) : Sheets K :=
  { s with pages := s.pages.map fun entry => if entry.1 == id then (id, page) else entry }

theorem page_setPage (s : Sheets K) (id other : PageId) (page : Page K) :
    (s.setPage id page).page other = (s.page other).map fun old => if other = id then page else old := by
  have hkey : (fun entry : PageId × Page K => entry.1 == other) ∘
      (fun entry => if entry.1 == id then (id, page) else entry) = fun entry => entry.1 == other := by
    funext entry
    by_cases h : entry.1 = id <;> simp [h]
  simp only [Sheets.page, setPage, List.find?_map, hkey]
  cases hfind : s.pages.find? fun entry => entry.1 == other with
  | none => rfl
  | some entry =>
    have hother : entry.1 = other := by simpa using List.find?_some hfind
    by_cases h : other = id <;> simp [hother, h, Except.map]

/-- Makes an empty page. -/
def createPage (title template : String) (s : Sheets K) : PageId × Sheets K :=
  let id := s.names.page s.pagesDrawn
  (id, { s with pagesDrawn := s.pagesDrawn + 1, pages := (id, ⟨title, template, [], [], none, true⟩) :: s.pages })

/-- Puts a body on a page. -/
def addBody (id : PageId) (solid : SolidRef) (s : Sheets K) : Except RenderError (BodyId × Sheets K) := do
  let page ← s.page id
  let body := s.names.body s.bodiesDrawn
  let s := { s with bodiesDrawn := s.bodiesDrawn + 1 }
  return (body, s.setPage id { page with bodies := (body, solid) :: page.bodies, stale := true })

/-- Puts a view of a body on a page, behind its other views. -/
def addView [Scalar K] (id : PageId) (body : BodyId) (request : ViewRequest K) (s : Sheets K) :
    Except RenderError (ViewId × Sheets K) := do
  let page ← s.page id
  if !page.bodies.any fun entry => entry.1 == body then .error (.unknownObject .body body.name)
  else if !request.direction.isFinite || Scalar.same request.direction.normSq 0 then
    .error (.invalidRequest ("view '" ++ request.name ++ "' has no usable direction"))
  else
    let view := s.names.view s.viewsDrawn
    let s := { s with viewsDrawn := s.viewsDrawn + 1 }
    return (view, s.setPage id { page with views := page.views ++ [⟨view, request, []⟩], stale := true })

/-- Puts a dimension behind the other dimensions of a view. -/
def addDimension (id : PageId) (view : ViewId) (d : DimensionRequest) (s : Sheets K) :
    Except RenderError (Sheets K) := do
  let page ← s.page id
  if !page.views.any fun v => v.id == view then .error (.unknownObject .view view.name)
  else
    let views := page.views.map fun v => if v.id == view then { v with dimensions := v.dimensions ++ [d] } else v
    return s.setPage id { page with views, stale := true }

/-- Lays a page out. -/
def recompute [Scalar K] [DecimalText K] (id : PageId) (s : Sheets K) : Except RenderError (Sheets K) := do
  let page ← s.page id
  return s.setPage id { page with layout := some (s.config.layout page.title page.template page.views), stale := false }

/-- The layout of a page that can be written. -/
def exportable (id : PageId) (s : Sheets K) : Except RenderError (Layout K) := do
  let page ← s.page id
  match page.layout, page.stale with
  | some layout, false => .ok layout
  | _, _ => .error (.invalidRequest ("page '" ++ page.title ++ "' has changes that were not recomputed"))

/-- No pages left. -/
def clear (s : Sheets K) : Sheets K := { s with pages := [] }

/-- The renderer over the pages that the monad holds, writing through `fs`. -/
def renderer {m : Type → Type} [Monad m] [MonadStateOf (Sheets Float) m] (fs : FileSystem m) : Renderer Float m :=
  let read {α : Type} (f : Sheets Float → Except RenderError α) : ExceptT RenderError m α :=
    (modifyGet fun s => (f s, s) : m (Except RenderError α))
  let update {α : Type} (f : Sheets Float → Except RenderError (α × Sheets Float)) : ExceptT RenderError m α :=
    (modifyGet fun s =>
      match f s with
      | .ok (a, s) => (.ok a, s)
      | .error e => (.error e, s) : m (Except RenderError α))
  let save (path : String) (bytes : List UInt8) : ExceptT RenderError m Unit := (fs.save path bytes).adapt .io
  { name := rendererName
    available := true
    createPage := fun title template => update fun s => .ok (s.createPage title template)
    addBody := fun page solid => update (addBody page solid)
    addView := fun page body request => update (addView page body request)
    addDimension := fun page view d => update fun s => (s.addDimension page view d).map ((), ·)
    recompute := fun page => update fun s => (s.recompute page).map ((), ·)
    exportPdf := fun page path => do
      let (layout, config) ← read fun s => (s.exportable page).map (·, s.config)
      save path (Pdf.document config layout)
    exportSvg := fun page path => do
      let (layout, config) ← read fun s => (s.exportable page).map (·, s.config)
      save path (Svg.document config layout).toUTF8.toList
    shutdown := modify fun (s : Sheets Float) => s.clear }

end Sheets

end SolidDrawing
