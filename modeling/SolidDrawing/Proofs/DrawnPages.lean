import SolidDrawing.Proofs.DrawingCalls
import SolidDrawing.Proofs.PlacedViews
import SolidDrawing.Proofs.SheetHistories

/-!
# Drawn pages

A drawing without a fault is put on a new page of the sheets, whatever is on the other pages: no call fails before the
page is written, and what is written is the page with all views of the drawing, each with its dimensions
(`run_project`). The layout of the page has a frame for each view, which shows the first lines of the view, as many as
there is room for (`Layout.Shows`).
-/

namespace SolidDrawing

open Float.Model (UnpackedFloat)

/-! ### Directions -/

private theorem unpack_zero : (Float.toModel 0).unpack = .zero .positive := rfl

/-- What is greater than zero is not the same as zero. -/
theorem same_zero_of_pos {x : Float} (h : 0 < x) : Scalar.same x 0 = false := by
  have hlt : ((Float.toModel 0).unpack.compare x.toModel.unpack == some .lt) = true := of_decide_eq_true h
  change (x.toModel.unpack.compare (Float.toModel 0).unpack == some .eq) = false
  rw [unpack_zero] at hlt ⊢
  cases hx : x.toModel.unpack with
  | notANumber => rfl
  | infinity sign => cases sign <;> rfl
  | zero sign =>
    rw [hx] at hlt
    cases hlt
  | finite sign => cases sign <;> rfl

theorem Vec3.same_normSq_of_isUsable {v : Vec3 Float} (h : v.isUsable = true) :
    (!v.isFinite || Scalar.same v.normSq 0) = false := by
  rw [isUsable, Bool.and_eq_true, decide_eq_true_eq] at h
  rw [h.1, same_zero_of_pos h.2]
  rfl

section

variable {K : Type} [Scalar K]

private theorem isUsable_of_viewsFault?_eq_none {policy : Policy} {seen : List String} {views : List (ViewSpec K)}
    (h : viewsFault? policy seen views = none) : ∀ v ∈ views, v.direction.isUsable = true := by
  induction views generalizing seen with
  | nil => simp
  | cons v views ih =>
    rw [viewsFault?, Option.orElse_eq_orElse, Option.orElse_eq_or, Option.or_eq_none_iff] at h
    refine List.forall_mem_cons.2 ⟨?_, ih h.2⟩
    by_contra hno
    have hinvalid : v.invalid? = some .direction := by simp [ViewSpec.invalid?, hno]
    simp [ViewSpec.fault?, hinvalid] at h

/-- The views of a drawing without a fault can be looked at. -/
theorem DrawingSpec.isUsable_of_fault?_eq_none {policy : Policy} {spec : DrawingSpec K}
    (h : spec.fault? policy = none) : ∀ v ∈ spec.views, v.direction.isUsable = true := by
  rw [fault?, Option.orElse_eq_orElse, Option.orElse_eq_or, Option.or_eq_none_iff] at h
  exact isUsable_of_viewsFault?_eq_none h.1

end

namespace Renderer

variable {K : Type} [Scalar K] {m : Type → Type} [Monad m] [LawfulMonad m] (r : Renderer K m)

/-- Puts the views and the dimensions of a drawing on a page, and lays it out. -/
def fill (page : PageId) (body : BodyId) (spec : DrawingSpec K) : ExceptT ProjectError m Unit := do
  let placed ← (r.addViews page body [] spec.views).adapt .renderer
  (r.recompute page).adapt .renderer
  r.addDimensions page placed 0 spec.dimensions
  (r.recompute page).adapt .renderer

/-- Puts a solid on a new page as described, up to the files. -/
def compose (solid : SolidRef) (spec : DrawingSpec K) : ExceptT ProjectError m PageId := do
  let page ← (r.createPage spec.pageTitle spec.template).adapt .renderer
  let body ← (r.addBody page solid).adapt .renderer
  r.fill page body spec
  return page

theorem project_eq_compose {policy : Policy} {spec : DrawingSpec K} (hfault : spec.fault? policy = none)
    (solid : SolidRef) (targets : ExportTargets) : r.project policy solid spec targets = do
      let page ← r.compose solid spec
      (exportTo r.exportPdf page targets.pdf).adapt .renderer
      (exportTo r.exportSvg page targets.svg).adapt .renderer
      return ⟨page, targets.pdf, targets.svg⟩ := by
  rw [project, hfault]
  simp only [compose, fill, bind_assoc, pure_bind]

end Renderer

namespace Sheets

/-! ### One page -/

section

variable {K : Type} {s : Sheets K} {id : PageId} {p q : Page K} {bodies views : Nat}

/-- The sheets with another page under a name, and with so many names of bodies and of views used up. -/
def edited (s : Sheets K) (bodies views : Nat) (id : PageId) (p : Page K) : Sheets K :=
  { s with bodiesDrawn := bodies, viewsDrawn := views }.setPage id p

theorem page_edited (h : s.page id = .ok q) : (s.edited bodies views id p).page id = .ok p := by
  have hpage : ({ s with bodiesDrawn := bodies, viewsDrawn := views } : Sheets K).page id = .ok q := h
  rw [edited, page_setPage, hpage]
  simp [Except.map]

theorem edited_edited (bodies' views' : Nat) :
    (s.edited bodies views id p).edited bodies' views' id q = s.edited bodies' views' id q := by
  have hmap : ∀ entry : PageId × Page K, ((fun entry => if entry.1 == id then (id, q) else entry) ∘
      fun entry => if entry.1 == id then (id, p) else entry) entry = if entry.1 == id then (id, q) else entry := by
    intro entry
    by_cases h : entry.1 = id <;> simp [h]
  simp only [edited, setPage, List.map_map]
  rw [List.map_congr_left fun entry _ => hmap entry]

theorem addBody_eq_ok (h : s.page id = .ok p) (solid : SolidRef) : s.addBody id solid =
    .ok (s.names.body s.bodiesDrawn, s.edited (s.bodiesDrawn + 1) s.viewsDrawn id
      { p with bodies := (s.names.body s.bodiesDrawn, solid) :: p.bodies, stale := true }) := by
  rw [addBody, h]
  rfl

theorem addView_edited [Scalar K] (h : s.page id = .ok q) {body : BodyId} (hbody : ∃ entry ∈ p.bodies, entry.1 = body)
    {request : ViewRequest K} (hdirection : (!request.direction.isFinite ||
      Scalar.same request.direction.normSq 0) = false) :
    (s.edited bodies views id p).addView id body request = .ok (s.names.view views,
      s.edited bodies (views + 1) id
        { p with views := p.views ++ [⟨s.names.view views, request, []⟩], stale := true }) := by
  have hany : (p.bodies.any fun entry => entry.1 == body) = true := by simpa using hbody
  have hpage : (s.edited bodies views id p).page id = .ok p := page_edited h
  rw [addView, hpage]
  simp only [bind, Except.bind, hany, hdirection, Bool.not_true, Bool.false_eq_true, if_false]
  exact congrArg (fun s => Except.ok (_, s)) (edited_edited bodies (views + 1))

theorem addDimension_edited (h : s.page id = .ok q) {view : ViewId} (hview : ∃ v ∈ p.views, v.id = view)
    (d : DimensionRequest) : (s.edited bodies views id p).addDimension id view d = .ok (s.edited bodies views id
      { p with views := p.views.map fun v => if v.id == view then { v with dimensions := v.dimensions ++ [d] } else v,
               stale := true }) := by
  have hany : (p.views.any fun v => v.id == view) = true := by simpa using hview
  have hpage : (s.edited bodies views id p).page id = .ok p := page_edited h
  rw [addDimension, hpage]
  simp only [bind, Except.bind, hany, Bool.not_true, Bool.false_eq_true, if_false]
  exact congrArg Except.ok (edited_edited bodies views)

theorem recompute_edited [Scalar K] [DecimalText K] (h : s.page id = .ok q) :
    (s.edited bodies views id p).recompute id = .ok (s.edited bodies views id
      { p with layout := some (s.config.layout p.title p.template p.views), stale := false }) := by
  have hpage : (s.edited bodies views id p).page id = .ok p := page_edited h
  rw [recompute, hpage]
  exact congrArg Except.ok (edited_edited bodies views)

end

/-! ### Calls -/

section

variable {m : Type → Type} [Monad m]

theorem run_update_of_ok {α : Type} {f : Sheets Float → Except RenderError (α × Sheets Float)}
    {s s' : Sheets Float} {a : α} (h : f s = .ok (a, s')) : StateT.run (modifyGet fun s =>
      match f s with
      | .ok (a, s) => (.ok a, s)
      | .error e => (.error e, s) : StateT (Sheets Float) m (Except RenderError α)) s = pure (.ok a, s') := by
  change (pure (match f s with
    | .ok (a, s) => (.ok a, s)
    | .error e => (.error e, s) : Except RenderError α × Sheets Float) : m _) = _
  rw [h]

variable [LawfulMonad m] (fs : FileSystem (StateT (Sheets Float) m)) {s : Sheets Float} {id : PageId}
  {p q : Page Float} {b n : Nat}

/-- Views are put on a page behind those that are there. -/
theorem run_addViews (h : s.page id = .ok q) {body : BodyId} (hbody : ∃ entry ∈ p.bodies, entry.1 = body)
    (hstale : p.stale = true) (placed : List (String × ViewId)) {views : List (ViewSpec Float)}
    (husable : ∀ v ∈ views, v.direction.isUsable = true) :
    ((renderer fs).addViews id body placed views).run.run (s.edited b n id p) =
      pure (.ok (handles (fun i => s.names.view (n + i)) views ++ placed), s.edited b (n + views.length) id
        { p with views := p.views ++ placedViews (fun i => s.names.view (n + i)) views [] }) := by
  induction views generalizing n p placed with
  | nil =>
    have hp : { p with views := p.views ++ placedViews (fun i => s.names.view (n + i)) [] [] } = p := by
      simp [placedViews]
    rw [hp]
    rfl
  | cons v views ih =>
    obtain ⟨hv, hviews⟩ := List.forall_mem_cons.1 husable
    have hdirection : (!v.request.direction.isFinite || Scalar.same v.request.direction.normSq 0) = false :=
      Vec3.same_normSq_of_isUsable hv
    have hadd : ((renderer fs).addView id body v.request).run.run (s.edited b n id p) = pure (.ok _, _) :=
      run_update_of_ok (addView_edited h hbody hdirection)
    -- the names of the views behind the first one are counted from the next number on
    have hnames : (fun i => s.names.view (n + 1 + i)) = fun i => s.names.view (n + (i + 1)) := by
      funext i
      rw [Nat.add_assoc, Nat.add_comm 1]
    have hrest := ih (p := { p with views := p.views ++ [⟨s.names.view n, v.request, []⟩], stale := true })
      (n := n + 1) hbody rfl ((v.id, s.names.view n) :: placed) hviews
    rw [Renderer.addViews_cons, run_bind_of_ok hadd, hrest, hnames, handles_cons, placedViews_cons_nil]
    simp [hstale, Nat.add_assoc, Nat.add_comm 1]

/-- Dimensions are put on a page with the views that their ids lead to. -/
theorem run_addDimensions (h : s.page id = .ok q) {names : Nat → ViewId} (hnames : Function.Injective names)
    {views : List (ViewSpec Float)} (done : List DimensionSpec) (hviews : p.views = placedViews names views done)
    (index : Nat) {dimensions : List DimensionSpec} (hknown : ∀ d ∈ dimensions, d.viewId ∈ views.map (·.id)) :
    ∃ stale, ((renderer fs).addDimensions id (handles names views) index dimensions).run.run (s.edited b n id p) =
      pure (.ok (), s.edited b n id
        { p with views := placedViews names views (done ++ dimensions), stale := stale }) := by
  induction dimensions generalizing done p index with
  | nil =>
    refine ⟨p.stale, ?_⟩
    rw [List.append_nil, ← hviews]
    rfl
  | cons d dimensions ih =>
    obtain ⟨hd, hrest⟩ := List.forall_mem_cons.1 hknown
    obtain ⟨entry, hfind, hplaced⟩ := exists_handle names done hd
    have hadd : ((renderer fs).addDimension id entry.2 d.request).run.run (s.edited b n id p) = pure (.ok (), _) :=
      run_update_of_ok (congrArg (Except.map ((), ·)) (addDimension_edited h (hviews ▸ hplaced) d.request))
    rw [hviews, placedViews_append_singleton hnames views done hfind] at hadd
    obtain ⟨stale, hrun⟩ := ih (p := { p with views := placedViews names views (done ++ [d]), stale := true }) _ rfl
      (index + 1) hrest
    refine ⟨stale, ?_⟩
    rw [Renderer.addDimensions, hfind]
    refine (run_bind_of_ok (run_adapt_of_eq hadd _) _).trans (hrun.trans ?_)
    rw [List.append_assoc]
    rfl

end

end Sheets

/-! ### Files -/

namespace FileSystem

variable {m : Type → Type} [Monad m]

/-- Puts bytes into a file, if there is a path for them. -/
def saveTo (fs : FileSystem m) (bytes : List UInt8) : Option String → ExceptT String m Unit
  | none => pure ()
  | some path => fs.save path bytes

/-- Writes a layout to the files that are asked for, the PDF first. -/
def saveAll (fs : FileSystem m) (config : SheetConfig Float) (layout : Layout Float) (targets : ExportTargets) :
    ExceptT String m Unit := do
  fs.saveTo (SheetFormat.pdf.bytes config layout) targets.pdf
  fs.saveTo (SheetFormat.svg.bytes config layout) targets.svg

end FileSystem

namespace Sheets

section

variable {m : Type → Type} [Monad m] [LawfulMonad m] (fs : FileSystem m) {s : Sheets Float} {id : PageId}
  {layout : Layout Float}

private theorem export_beneath (h : s.exportable id = .ok layout) (file : SheetConfig Float → Layout Float → List UInt8)
    (path : String) :
    let read : ExceptT RenderError (StateT (Sheets Float) m) (Layout Float × SheetConfig Float) :=
      (modifyGet fun s => ((s.exportable id).map (·, s.config), s) :
        StateT (Sheets Float) m (Except RenderError (Layout Float × SheetConfig Float)))
    Beneath s ((fs.save path (file s.config layout)).adapt RenderError.io) (do
      let (layout, config) ← read
      ((fs.lift : FileSystem (StateT (Sheets Float) m)).save path (file config layout)).adapt .io) := by
  intro read
  have hread : read.run.run s = pure (.ok (layout, s.config), s) := by
    change (pure ((s.exportable id).map (·, s.config), s) : m _) = _
    rw [h]
    rfl
  rw [Beneath, run_bind_of_ok hread]
  exact (fs.save_beneath path _ s).adapt _

/-- A page that is laid out is written to the files that are asked for. -/
theorem exports_beneath (h : s.exportable id = .ok layout) (targets : ExportTargets) :
    let sheets : Renderer Float (StateT (Sheets Float) m) := renderer fs.lift
    Beneath s ((fs.saveAll s.config layout targets).adapt RenderError.io) (do
      Renderer.exportTo sheets.exportPdf id targets.pdf
      Renderer.exportTo sheets.exportSvg id targets.svg) := by
  intro sheets
  rw [FileSystem.saveAll, adapt_bind]
  have hexport (format : SheetFormat) (write : PageId → String → ExceptT RenderError (StateT (Sheets Float) m) Unit)
      (hwrite : ∀ path, Beneath s ((fs.save path (format.bytes s.config layout)).adapt RenderError.io) (write id path))
      (target : Option String) : Beneath s ((fs.saveTo (format.bytes s.config layout) target).adapt RenderError.io)
        (Renderer.exportTo write id target) := by
    cases target with
    | none =>
      rw [FileSystem.saveTo, adapt_pure]
      exact .pure ()
    | some path => exact hwrite path
  refine .bind (hexport .pdf _ (fun path => ?_) targets.pdf) fun _ => hexport .svg _ (fun path => ?_) targets.svg
  · exact export_beneath fs h SheetFormat.pdf.bytes path
  · exact export_beneath fs h SheetFormat.svg.bytes path

/-! ### Drawing -/

/-- The views of a drawing with the next names, and with their dimensions. -/
def nextViews (s : Sheets Float) (spec : DrawingSpec Float) : List (PlacedView Float) :=
  placedViews (fun i => s.names.view (s.viewsDrawn + i)) spec.views spec.dimensions

/-- The layout of a drawing that is put on the next page. -/
def nextLayout (s : Sheets Float) (spec : DrawingSpec Float) : Layout Float :=
  s.config.layout spec.pageTitle spec.template (s.nextViews spec)

/-- The sheets with the drawing of a solid on the next page. -/
def drawn (s : Sheets Float) (solid : SolidRef) (spec : DrawingSpec Float) : Sheets Float :=
  (s.createPage spec.pageTitle spec.template).2.edited (s.bodiesDrawn + 1) (s.viewsDrawn + spec.views.length)
    (s.names.page s.pagesDrawn)
    ⟨spec.pageTitle, spec.template, [(s.names.body s.bodiesDrawn, solid)], s.nextViews spec,
      some (s.nextLayout spec), false⟩

theorem page_createPage_self (s : Sheets Float) (title template : String) :
    (s.createPage title template).2.page (s.names.page s.pagesDrawn) =
      .ok ⟨title, template, [], [], none, true⟩ := by
  rw [page_createPage, if_pos (show s.names.page s.pagesDrawn = (s.createPage title template).1 from rfl)]

theorem page_drawn (s : Sheets Float) (solid : SolidRef) (spec : DrawingSpec Float) :
    (s.drawn solid spec).page (s.names.page s.pagesDrawn) =
      .ok ⟨spec.pageTitle, spec.template, [(s.names.body s.bodiesDrawn, solid)], s.nextViews spec,
        some (s.nextLayout spec), false⟩ :=
  page_edited (page_createPage_self s spec.pageTitle spec.template)

theorem exportable_drawn (s : Sheets Float) (solid : SolidRef) (spec : DrawingSpec Float) :
    (s.drawn solid spec).exportable (s.names.page s.pagesDrawn) = .ok (s.nextLayout spec) := by
  rw [exportable, page_drawn]
  rfl

/-- The views and the dimensions of a drawing without a fault are put on a page, and no call fails. -/
theorem run_fill (sheets : FileSystem (StateT (Sheets Float) m)) (h : s.page id = .ok q) {body : BodyId}
    (hbody : ∃ entry ∈ p.bodies, entry.1 = body) (hstale : p.stale = true) (hempty : p.views = [])
    (hnames : Function.Injective s.names.view) {policy : Policy} {spec : DrawingSpec Float}
    (hfault : spec.fault? policy = none) :
    let views := placedViews (fun i => s.names.view (n + i)) spec.views spec.dimensions
    ((renderer sheets).fill id body spec).run.run (s.edited b n id p) =
      pure (.ok (), s.edited b (n + spec.views.length) id
        { p with views := views, layout := some (s.config.layout p.title p.template views), stale := false }) := by
  intro views
  have hinjective : Function.Injective fun i => s.names.view (n + i) := fun _ _ h => Nat.add_left_cancel (hnames h)
  have hplaced := run_addViews (b := b) (n := n) sheets h hbody hstale []
    (DrawingSpec.isUsable_of_fault?_eq_none hfault)
  rw [hempty, List.nil_append, List.append_nil] at hplaced
  have hlaid (p : Page Float) : ((renderer sheets).recompute id).run.run (s.edited b (n + spec.views.length) id p) =
      pure (.ok (), _) := run_update_of_ok (congrArg (Except.map ((), ·)) (recompute_edited h))
  obtain ⟨stale, hdimensions⟩ := run_addDimensions (b := b) (n := n + spec.views.length) sheets h hinjective []
    (p := { p with
      views := placedViews (fun i => s.names.view (n + i)) spec.views []
      layout := some (s.config.layout p.title p.template (placedViews (fun i => s.names.view (n + i)) spec.views []))
      stale := false }) rfl 0 (DrawingSpec.viewId_mem_of_fault?_eq_none hfault)
  rw [Renderer.fill, run_bind_of_ok (run_adapt_of_eq hplaced _), run_bind_of_ok (run_adapt_of_eq (hlaid _) _),
    run_bind_of_ok hdimensions, run_adapt_of_eq (hlaid _)]
  rfl

/-- A drawing without a fault is put on the next page, and no call fails. -/
theorem run_compose (sheets : FileSystem (StateT (Sheets Float) m)) (hnames : Function.Injective s.names.view)
    {policy : Policy} {spec : DrawingSpec Float} (hfault : spec.fault? policy = none) (solid : SolidRef) :
    ((renderer sheets).compose solid spec).run.run s = pure (.ok (s.names.page s.pagesDrawn), s.drawn solid spec) := by
  have hcreate : ((renderer sheets).createPage spec.pageTitle spec.template).run.run s =
      pure (.ok (s.names.page s.pagesDrawn), (s.createPage spec.pageTitle spec.template).2) := rfl
  have hpage := page_createPage_self s spec.pageTitle spec.template
  have hbody : ((renderer sheets).addBody (s.names.page s.pagesDrawn) solid).run.run
      (s.createPage spec.pageTitle spec.template).2 = pure (.ok (s.names.body s.bodiesDrawn), _) :=
    run_update_of_ok (addBody_eq_ok hpage solid)
  rw [Renderer.compose, run_bind_of_ok (run_adapt_of_eq hcreate _), run_bind_of_ok (run_adapt_of_eq hbody _)]
  have hfill := run_fill (b := s.bodiesDrawn + 1) (n := s.viewsDrawn) (p := ⟨spec.pageTitle, spec.template,
    [(s.names.body s.bodiesDrawn, solid)], [], none, true⟩) sheets hpage ⟨_, List.mem_singleton_self _, rfl⟩ rfl rfl
    hnames hfault
  exact run_bind_of_ok hfill _

/-- A drawing without a fault is put on the next page, which is written to the files that are asked for. -/
theorem run_project (hnames : Function.Injective s.names.view) {policy : Policy} {spec : DrawingSpec Float}
    (hfault : spec.fault? policy = none) (solid : SolidRef) (targets : ExportTargets) :
    let sheets : Renderer Float (StateT (Sheets Float) m) := renderer fs.lift
    let saved := ((fs.saveAll s.config (s.nextLayout spec) targets).adapt RenderError.io).adapt ProjectError.renderer
    (sheets.project policy solid spec targets).run.run s = (fun result => (result, s.drawn solid spec)) <$>
      (saved >>= fun _ =>
        pure ⟨s.names.page s.pagesDrawn, targets.pdf, targets.svg⟩ : ExceptT ProjectError m _).run := by
  intro sheets saved
  rw [Renderer.project_eq_compose _ hfault, run_bind_of_ok (run_compose _ hnames hfault solid)]
  have hexports := (exports_beneath fs (exportable_drawn s solid spec) targets).adapt ProjectError.renderer
  rw [adapt_bind] at hexports
  have hdocument := hexports.bind fun _ => .pure (⟨s.names.page s.pagesDrawn, targets.pdf, targets.svg⟩ : Document)
  rw [bind_assoc] at hdocument
  exact hdocument

theorem run_run_project {W : Type} (fs : FileSystem (StateM W)) (hnames : Function.Injective s.names.view)
    {policy : Policy} {spec : DrawingSpec Float} (hfault : spec.fault? policy = none) (solid : SolidRef)
    (targets : ExportTargets) (w : W) :
    let sheets : Renderer Float (StateT (Sheets Float) (StateM W)) := renderer fs.lift
    ((sheets.project policy solid spec targets).run.run s).run w =
      match (fs.saveAll s.config (s.nextLayout spec) targets).run.run w with
      | (.ok (), w') => ((.ok ⟨s.names.page s.pagesDrawn, targets.pdf, targets.svg⟩, s.drawn solid spec), w')
      | (.error reason, w') => ((.error (.renderer (.io reason)), s.drawn solid spec), w') := by
  intro sheets
  rw [run_project fs hnames hfault solid targets, StateT.run_map, run_bind, ExceptT.run_adapt, ExceptT.run_adapt,
    StateT.run_map, StateT.run_map]
  rcases (fs.saveAll s.config (s.nextLayout spec) targets).run.run w with ⟨reason | _, w'⟩
  · rfl
  · rfl

end

end Sheets

/-! ### Frames -/

/-- The lines of a view above those of its dimensions. -/
def ViewSpec.ownLines (v : ViewSpec Float) : List String :=
  ["direction " ++ v.direction.parenthesized, scaleLine v.scale] ++
    if v.isSection then [SectionRequest.line ⟨v.sectionNormal⟩] else []

/-- All lines of view number `i`, of which a frame has as many as fit. -/
def DrawingSpec.linesAt (spec : DrawingSpec Float) (i : Nat) (v : ViewSpec Float) : List String :=
  v.ownLines ++ (dimensionsAt spec.views spec.dimensions i v).map fun d => d.request.line

/-- The layout shows the drawing: its views in order, each in a frame with the first of its lines, as many as there is
room for. -/
structure Layout.Shows (layout : Layout Float) (config : SheetConfig Float) (spec : DrawingSpec Float) : Prop where
  title : layout.title = spec.pageTitle
  template : layout.template = spec.template
  length : layout.frames.length = spec.views.length
  frame : ∀ i v, spec.views[i]? = some v → ∃ frame, layout.frames[i]? = some frame ∧ frame.heading = v.id ∧
    frame.lines = (spec.linesAt i v).take (config.maxLines spec.views.length)

/-- All lines of all views are those that the views have of their own, and one for each dimension. -/
theorem DrawingSpec.flatten_linesAt_perm {spec : DrawingSpec Float}
    (hknown : ∀ d ∈ spec.dimensions, d.viewId ∈ spec.views.map (·.id)) :
    (spec.views.mapIdx spec.linesAt).flatten.Perm
      (spec.views.flatMap ViewSpec.ownLines ++ spec.dimensions.map fun d => d.request.line) := by
  let callouts (p : ViewSpec Float × Nat) : List String :=
    (dimensionsAt spec.views spec.dimensions p.2 p.1).map fun d => d.request.line
  have hown : spec.views.flatMap ViewSpec.ownLines = spec.views.zipIdx.flatMap fun p => p.1.ownLines := by
    rw [← List.flatMap_map Prod.fst, List.zipIdx_map_fst]
  have hcallouts : ((spec.views.mapIdx (dimensionsAt spec.views spec.dimensions)).flatten.map fun d =>
      d.request.line) = spec.views.zipIdx.flatMap callouts := by
    rw [List.mapIdx_eq_zipIdx_map, ← List.flatMap_def, List.map_flatMap]
  have hall : (spec.views.mapIdx spec.linesAt).flatten.Perm
      (spec.views.flatMap ViewSpec.ownLines ++ spec.views.zipIdx.flatMap callouts) := by
    rw [List.mapIdx_eq_zipIdx_map, ← List.flatMap_def, hown]
    exact (List.flatMap_append_perm _ _ callouts).symm
  rw [← hcallouts] at hall
  exact hall.trans (.append_left _ ((flatten_dimensionsAt_perm hknown).map _))

/-- With room for all lines, the frames show all of them. -/
theorem Layout.Shows.map_lines {layout : Layout Float} {config : SheetConfig Float} {spec : DrawingSpec Float}
    (h : layout.Shows config spec)
    (hroom : ∀ i v, spec.views[i]? = some v → (spec.linesAt i v).length ≤ config.maxLines spec.views.length) :
    layout.frames.map (·.lines) = spec.views.mapIdx spec.linesAt := by
  refine List.ext_getElem? fun i => ?_
  rw [List.getElem?_map, List.getElem?_mapIdx]
  cases hv : spec.views[i]? with
  | none =>
    rw [List.getElem?_eq_none_iff, ← h.length, ← List.getElem?_eq_none_iff] at hv
    rw [hv]
    rfl
  | some v =>
    obtain ⟨frame, hframe, -, hshown⟩ := h.frame i v hv
    rw [hframe, Option.map_some, hshown, List.take_of_length_le (hroom i v hv)]
    rfl

theorem PlacedView.lines_eq_linesAt (spec : DrawingSpec Float) (name : ViewId) (i : Nat) (v : ViewSpec Float) :
    PlacedView.lines ⟨name, v.request, (dimensionsAt spec.views spec.dimensions i v).map DimensionSpec.request⟩ =
      spec.linesAt i v := by
  unfold PlacedView.lines DrawingSpec.linesAt ViewSpec.ownLines ViewSpec.request
  cases v.isSection <;> simp

namespace Sheets

variable (s : Sheets Float) (spec : DrawingSpec Float)

theorem frames_nextLayout : (s.nextLayout spec).frames = spec.views.mapIdx fun i v =>
    s.config.frame spec.views.length i ⟨s.names.view (s.viewsDrawn + i), v.request,
      (dimensionsAt spec.views spec.dimensions i v).map DimensionSpec.request⟩ := by
  rw [nextLayout, SheetConfig.layout, nextViews, length_placedViews, placedViews, List.mapIdx_mapIdx]
  rfl

theorem shows_nextLayout : (s.nextLayout spec).Shows s.config spec where
  title := rfl
  template := rfl
  length := by rw [frames_nextLayout, List.length_mapIdx]
  frame := by
    intro i v hv
    rw [frames_nextLayout, List.getElem?_mapIdx, hv]
    refine ⟨_, rfl, rfl, ?_⟩
    rw [← PlacedView.lines_eq_linesAt spec (s.names.view (s.viewsDrawn + i))]
    rfl

end Sheets

/-- Whatever is on the sheets, a drawing without a fault is laid out on the next page, and shown there. If anything
fails then it is one of the files. Before lines are left out for want of room, every dimension is among those of one
view, once. -/
theorem shows_project {W : Type} (fs : FileSystem (StateM W)) (s : Sheets Float)
    (hnames : Function.Injective s.names.view) {policy : Policy} {spec : DrawingSpec Float}
    (hfault : spec.fault? policy = none) (solid : SolidRef) (targets : ExportTargets) (w : W) :
    let sheets : Renderer Float (StateT (Sheets Float) (StateM W)) := Sheets.renderer fs.lift
    let done := ((sheets.project policy solid spec targets).run.run s).run w
    let page := s.names.page s.pagesDrawn
    (done.1.1 = .ok ⟨page, targets.pdf, targets.svg⟩ ∨ ∃ reason, done.1.1 = .error (.renderer (.io reason))) ∧
      ∃ layout, done.1.2.layout? page = some layout ∧ layout.Shows s.config spec ∧
        (spec.views.mapIdx (dimensionsAt spec.views spec.dimensions)).flatten.Perm spec.dimensions ∧
        ((∀ i v, spec.views[i]? = some v → (spec.linesAt i v).length ≤ s.config.maxLines spec.views.length) →
          (layout.frames.flatMap (·.lines)).Perm
            (spec.views.flatMap ViewSpec.ownLines ++ spec.dimensions.map fun d => d.request.line)) := by
  intro sheets done page
  have hknown : ∀ d ∈ spec.dimensions, d.viewId ∈ spec.views.map (·.id) :=
    DrawingSpec.viewId_mem_of_fault?_eq_none hfault
  have hshows : (s.nextLayout spec).Shows s.config spec := s.shows_nextLayout spec
  have hlayout : (s.drawn solid spec).layout? page = some (s.nextLayout spec) := by
    rw [Sheets.layout?, Sheets.page_drawn]
  have hlines : (∀ i v, spec.views[i]? = some v → (spec.linesAt i v).length ≤ s.config.maxLines spec.views.length) →
      ((s.nextLayout spec).frames.flatMap (·.lines)).Perm
        (spec.views.flatMap ViewSpec.ownLines ++ spec.dimensions.map fun d => d.request.line) := by
    intro hroom
    rw [List.flatMap_def, hshows.map_lines hroom]
    exact DrawingSpec.flatten_linesAt_perm hknown
  have hdone : done = _ := Sheets.run_run_project fs hnames hfault solid targets w
  rw [hdone]
  rcases (fs.saveAll s.config (s.nextLayout spec) targets).run.run w with ⟨reason | _, w'⟩
  · exact ⟨.inr ⟨reason, rfl⟩, _, hlayout, hshows, flatten_dimensionsAt_perm hknown, hlines⟩
  · exact ⟨.inl rfl, _, hlayout, hshows, flatten_dimensionsAt_perm hknown, hlines⟩

/-- A plate from above, and again with a cut. The dimensions name the id that both views have. -/
def plateDrawing : DrawingSpec Float :=
  ⟨"Plate", "A4", [⟨"top", ⟨0, 0, 1⟩, false, none, none⟩, ⟨"top", ⟨0, 0, 1⟩, true, none, some 2⟩],
    [⟨"top", "linear", "40", []⟩, ⟨"top", "diameter", "6", ["edge1"]⟩]⟩

theorem shows_project_plateDrawing :
    let fs : FileSystem (StateM Disk) := Disk.fileSystem "/"
    let s : Sheets Float := .empty ⟨297, 210, 10, 20, 2, 4⟩ .numbered
    let sheets : Renderer Float (StateT (Sheets Float) (StateM Disk)) := Sheets.renderer fs.lift
    let done := ((sheets.project {} ⟨⟨"solid0"⟩, "csg"⟩ plateDrawing ⟨some "/plate.pdf", none⟩).run.run s).run ⟨[], []⟩
    Function.Injective s.names.view ∧ plateDrawing.fault? {} = none ∧
      (∀ i v, plateDrawing.views[i]? = some v →
        (plateDrawing.linesAt i v).length ≤ s.config.maxLines plateDrawing.views.length) ∧
      (done.1.1 = .ok ⟨⟨"page0"⟩, some "/plate.pdf", none⟩ ∨ ∃ reason, done.1.1 = .error (.renderer (.io reason))) ∧
      ∃ layout, done.1.2.layout? ⟨"page0"⟩ = some layout ∧ layout.Shows s.config plateDrawing ∧
        (layout.frames.flatMap (·.lines)).Perm (plateDrawing.views.flatMap ViewSpec.ownLines ++
          ["Distance 40", "Diameter 6 [edge1]"]) := by
  intro fs s sheets done
  have hfault : plateDrawing.fault? {} = none := by decide +kernel
  have hroom : ∀ i v, plateDrawing.views[i]? = some v →
      (plateDrawing.linesAt i v).length ≤ s.config.maxLines plateDrawing.views.length := by
    have hmax : s.config.maxLines plateDrawing.views.length = 28 := by decide +kernel
    intro i v hv
    rw [hmax]
    match i with
    | 0 => cases hv; decide +kernel
    | 1 => cases hv; decide +kernel
    | i + 2 => cases hv
  have hpage : s.names.page s.pagesDrawn = ⟨"page0"⟩ := by decide
  obtain ⟨hdone, layout, hlayout, hshows, -, hlines⟩ := shows_project fs s Sheets.numbered_view_injective hfault
    ⟨⟨"solid0"⟩, "csg"⟩ ⟨some "/plate.pdf", none⟩ ⟨[], []⟩
  rw [hpage] at hdone hlayout
  exact ⟨Sheets.numbered_view_injective, hfault, hroom, hdone, layout, hlayout, hshows, hlines hroom⟩

end SolidDrawing
