import SolidDrawing.Proofs.DrawnPages

/-!
# Failures of drawings

A drawing without a fault fails on the sheets only where a file does (`Sheets.project_fails_io`). The renderer knows the
page, the body and the views whose handles it has given out (`Sheets.Serves`): every call that adds to the page is
answered, and leaves it so. That is so even if two objects come to have one name.
-/

namespace SolidDrawing

/-- The page has the body, and the views that the handles lead to. -/
structure Page.Holds {K : Type} (p : Page K) (body : BodyId) (placed : List (String × ViewId)) : Prop where
  body : ∃ entry ∈ p.bodies, entry.1 = body
  view : ∀ handle ∈ placed, ∃ v ∈ p.views, v.id = handle.2

namespace Sheets

/-- The page is among the sheets, and has the body and the views. -/
def Serves (s : Sheets Float) (page : PageId) (body : BodyId) (placed : List (String × ViewId)) : Prop :=
  ∃ p, s.page page = .ok p ∧ p.Holds body placed

variable {s : Sheets Float} {page : PageId} {body : BodyId} {placed : List (String × ViewId)}

/-! ### Single calls -/

namespace Serves

theorem edited {p q : Page Float} (h : s.page page = .ok q) (hp : p.Holds body placed) (bodies views : Nat) :
    (s.edited bodies views page p).Serves page body placed :=
  ⟨p, page_edited h, hp⟩

theorem addBody {p : Page Float} (h : s.page page = .ok p) (solid : SolidRef) :
    ∃ body s', s.addBody page solid = .ok (body, s') ∧ s'.Serves page body [] := by
  have hholds : Page.Holds { p with bodies := (s.names.body s.bodiesDrawn, solid) :: p.bodies, stale := true }
      (s.names.body s.bodiesDrawn) [] := ⟨⟨_, List.mem_cons_self, rfl⟩, by simp⟩
  exact ⟨_, _, addBody_eq_ok h solid, edited h hholds _ _⟩

/-- Whatever can be looked along is accepted as the direction of a view, and the view has a handle from then on. -/
theorem addView (h : s.Serves page body placed) {request : ViewRequest Float}
    (husable : request.direction.isUsable = true) (id : String) :
    ∃ view s', s.addView page body request = .ok (view, s') ∧ s'.Serves page body ((id, view) :: placed) := by
  obtain ⟨p, hpage, hbody, hviews⟩ := h
  let view := s.names.view s.viewsDrawn
  let q : Page Float := { p with views := p.views ++ [⟨view, request, []⟩], stale := true }
  have hany : (p.bodies.any fun entry => entry.1 == body) = true := by simpa using hbody
  have hadd : s.addView page body request = .ok (view, s.edited s.bodiesDrawn (s.viewsDrawn + 1) page q) := by
    rw [Sheets.addView, hpage]
    simp only [bind, Except.bind, hany, Vec3.same_normSq_of_isUsable husable, Bool.not_true, Bool.false_eq_true,
      if_false]
    rfl
  have hq : q.Holds body ((id, view) :: placed) := by
    refine ⟨hbody, fun handle hhandle => ?_⟩
    rcases List.mem_cons.1 hhandle with rfl | hplaced
    case inl => exact ⟨_, List.mem_append_right _ (List.mem_singleton_self _), rfl⟩
    case inr =>
      obtain ⟨v, hv, hname⟩ := hviews handle hplaced
      exact ⟨v, List.mem_append_left _ hv, hname⟩
  exact ⟨view, _, hadd, edited hpage hq _ _⟩

theorem addDimension (h : s.Serves page body placed) {handle : String × ViewId} (hhandle : handle ∈ placed)
    (d : DimensionRequest) : ∃ s', s.addDimension page handle.2 d = .ok s' ∧ s'.Serves page body placed := by
  obtain ⟨p, hpage, hbody, hviews⟩ := h
  let attach (v : PlacedView Float) : PlacedView Float :=
    if v.id == handle.2 then { v with dimensions := v.dimensions ++ [d] } else v
  let q : Page Float := { p with views := p.views.map attach, stale := true }
  have hany : (p.views.any fun v => v.id == handle.2) = true := by simpa using hviews handle hhandle
  have hadd : s.addDimension page handle.2 d = .ok (s.edited s.bodiesDrawn s.viewsDrawn page q) := by
    rw [Sheets.addDimension, hpage]
    simp only [bind, Except.bind, hany, Bool.not_true, Bool.false_eq_true, if_false]
    rfl
  have hname (v : PlacedView Float) : (attach v).id = v.id := by
    unfold attach
    split <;> rfl
  have hq : q.Holds body placed := by
    refine ⟨hbody, fun other hother => ?_⟩
    obtain ⟨v, hv, hother⟩ := hviews other hother
    exact ⟨attach v, List.mem_map_of_mem hv, (hname v).trans hother⟩
  exact ⟨_, hadd, edited hpage hq _ _⟩

/-- A page that has just been laid out can be written. -/
theorem recompute (h : s.Serves page body placed) :
    ∃ s' layout, s.recompute page = .ok s' ∧ s'.Serves page body placed ∧ s'.exportable page = .ok layout := by
  obtain ⟨p, hpage, hholds⟩ := h
  let layout := s.config.layout p.title p.template p.views
  have hfound : (s.edited s.bodiesDrawn s.viewsDrawn page { p with layout := some layout, stale := false }).page page =
      .ok { p with layout := some layout, stale := false } := page_edited hpage
  refine ⟨_, layout, ?_, ⟨_, hfound, hholds.body, hholds.view⟩, ?_⟩
  case refine_1 =>
    rw [Sheets.recompute, hpage]
    rfl
  case refine_2 =>
    rw [exportable, hfound]
    rfl

end Serves

/-! ### Drawings -/

section

variable {m : Type → Type} [Monad m]

namespace Serves

variable (fs : FileSystem (StateT (Sheets Float) m))

theorem run_recompute (h : s.Serves page body placed) :
    ∃ s' layout, ((renderer fs).recompute page).run.run s = pure (.ok (), s') ∧ s'.Serves page body placed ∧
      s'.exportable page = .ok layout := by
  obtain ⟨s', layout, hlaid, hserves, hexportable⟩ := h.recompute
  exact ⟨s', layout, run_update_of_ok (congrArg (Except.map ((), ·)) hlaid), hserves, hexportable⟩

variable [LawfulMonad m]

/-- Views are added one after the other, and there is a handle for each of their ids in the end. -/
theorem run_addViews (h : s.Serves page body placed) {views : List (ViewSpec Float)}
    (husable : ∀ v ∈ views, v.direction.isUsable = true) :
    ∃ placed' s', ((renderer fs).addViews page body placed views).run.run s = pure (.ok placed', s') ∧
      s'.Serves page body placed' ∧ placed'.map (·.1) = (views.map (·.id)).reverse ++ placed.map (·.1) := by
  induction views generalizing s placed with
  | nil => exact ⟨placed, s, rfl, h, rfl⟩
  | cons v views ih =>
    obtain ⟨hv, hviews⟩ := List.forall_mem_cons.1 husable
    have hdirection : v.request.direction.isUsable = true := hv
    obtain ⟨view, s₁, hadd, hserves⟩ := h.addView hdirection v.id
    have hrun : ((renderer fs).addView page body v.request).run.run s = pure (.ok view, s₁) := run_update_of_ok hadd
    obtain ⟨placed', s', hrest, hserves', hids⟩ := ih hserves hviews
    refine ⟨placed', s', ?_, hserves', ?_⟩
    · rw [Renderer.addViews_cons, run_bind_of_ok hrun, hrest]
    · rw [hids]
      simp

/-- Dimensions are added one after the other, if there is a handle for the view of each of them. -/
theorem run_addDimensions (h : s.Serves page body placed) (index : Nat) {dimensions : List DimensionSpec}
    (hknown : ∀ d ∈ dimensions, d.viewId ∈ placed.map (·.1)) :
    ∃ s', ((renderer fs).addDimensions page placed index dimensions).run.run s = pure (.ok (), s') ∧
      s'.Serves page body placed := by
  induction dimensions generalizing s index with
  | nil => exact ⟨s, rfl, h⟩
  | cons d dimensions ih =>
    obtain ⟨hd, hrest⟩ := List.forall_mem_cons.1 hknown
    obtain ⟨handle, hfind⟩ : ∃ handle, (placed.find? fun p => p.1 == d.viewId) = some handle := by
      rw [← Option.isSome_iff_exists, List.find?_isSome]
      simpa using hd
    obtain ⟨s₁, hadd, hserves⟩ := h.addDimension (List.mem_of_find?_eq_some hfind) d.request
    have hrun : ((renderer fs).addDimension page handle.2 d.request).run.run s = pure (.ok (), s₁) :=
      run_update_of_ok (congrArg (Except.map ((), ·)) hadd)
    obtain ⟨s', hdone, hserves'⟩ := ih hserves (index + 1) hrest
    refine ⟨s', ?_, hserves'⟩
    rw [Renderer.addDimensions, hfind]
    exact (run_bind_of_ok (run_adapt_of_eq hrun _) _).trans hdone

/-- The views and the dimensions of a drawing without a fault are put on a page, which can be written then. -/
theorem run_fill (h : s.Serves page body []) {policy : Policy} {spec : DrawingSpec Float}
    (hfault : spec.fault? policy = none) :
    ∃ s' layout, ((renderer fs).fill page body spec).run.run s = pure (.ok (), s') ∧
      s'.exportable page = .ok layout := by
  obtain ⟨placed, s₁, hviews, hserves, hids⟩ := h.run_addViews fs (DrawingSpec.isUsable_of_fault?_eq_none hfault)
  obtain ⟨s₂, -, hlaid, hserves, -⟩ := hserves.run_recompute fs
  have hknown : ∀ d ∈ spec.dimensions, d.viewId ∈ placed.map (·.1) := by
    intro d hd
    rw [hids]
    simpa using DrawingSpec.viewId_mem_of_fault?_eq_none hfault d hd
  obtain ⟨s₃, hdimensions, hserves⟩ := hserves.run_addDimensions fs 0 hknown
  obtain ⟨s₄, layout, hlaid', -, hexportable⟩ := hserves.run_recompute fs
  refine ⟨s₄, layout, ?_, hexportable⟩
  rw [Renderer.fill, run_bind_of_ok (run_adapt_of_eq hviews _), run_bind_of_ok (run_adapt_of_eq hlaid _),
    run_bind_of_ok hdimensions, run_adapt_of_eq hlaid']
  rfl

end Serves

variable [LawfulMonad m]

/-- Whatever is on the sheets, a drawing without a fault is put on the next page, which can be written then. -/
theorem exists_run_compose (fs : FileSystem (StateT (Sheets Float) m)) (s : Sheets Float) {policy : Policy}
    {spec : DrawingSpec Float} (hfault : spec.fault? policy = none) (solid : SolidRef) :
    ∃ s' layout, ((renderer fs).compose solid spec).run.run s = pure (.ok (s.names.page s.pagesDrawn), s') ∧
      s'.exportable (s.names.page s.pagesDrawn) = .ok layout := by
  have hcreate : ((renderer fs).createPage spec.pageTitle spec.template).run.run s =
      pure (.ok (s.names.page s.pagesDrawn), (s.createPage spec.pageTitle spec.template).2) := rfl
  obtain ⟨body, s₁, hadd, hserves⟩ := Serves.addBody (page_createPage_self s spec.pageTitle spec.template) solid
  have hbody : ((renderer fs).addBody (s.names.page s.pagesDrawn) solid).run.run
      (s.createPage spec.pageTitle spec.template).2 = pure (.ok body, s₁) := run_update_of_ok hadd
  obtain ⟨s', layout, hfill, hexportable⟩ := hserves.run_fill fs hfault
  refine ⟨s', layout, ?_, hexportable⟩
  rw [Renderer.compose, run_bind_of_ok (run_adapt_of_eq hcreate _), run_bind_of_ok (run_adapt_of_eq hbody _)]
  exact run_bind_of_ok hfill _

/-- A page that can be written ends a drawing with what becomes of its files. -/
theorem run_exports {W : Type} (fs : FileSystem (StateM W)) {layout : Layout Float} (h : s.exportable page = .ok layout)
    (targets : ExportTargets) (w : W) :
    let sheets : Renderer Float (StateT (Sheets Float) (StateM W)) := renderer fs.lift
    let exports : ExceptT ProjectError (StateT (Sheets Float) (StateM W)) Document := do
      (Renderer.exportTo sheets.exportPdf page targets.pdf).adapt .renderer
      (Renderer.exportTo sheets.exportSvg page targets.svg).adapt .renderer
      return ⟨page, targets.pdf, targets.svg⟩
    (exports.run.run s).run w =
      match (fs.saveAll s.config layout targets).run.run w with
      | (.ok (), w') => ((.ok ⟨page, targets.pdf, targets.svg⟩, s), w')
      | (.error reason, w') => ((.error (.renderer (.io reason)), s), w') := by
  intro sheets exports
  have hfiles := (exports_beneath fs h targets).adapt ProjectError.renderer
  rw [adapt_bind] at hfiles
  have hexports := hfiles.bind fun _ => .pure (⟨page, targets.pdf, targets.svg⟩ : Document)
  rw [bind_assoc] at hexports
  have hrun : exports.run.run s = _ := hexports
  rw [hrun, StateT.run_map, run_bind, ExceptT.run_adapt, ExceptT.run_adapt, StateT.run_map, StateT.run_map]
  rcases (fs.saveAll s.config layout targets).run.run w with ⟨reason | _, w'⟩
  · rfl
  · rfl

theorem exists_run_project {W : Type} (fs : FileSystem (StateM W)) (s : Sheets Float) {policy : Policy}
    {spec : DrawingSpec Float} (hfault : spec.fault? policy = none) (solid : SolidRef) (targets : ExportTargets)
    (w : W) :
    let sheets : Renderer Float (StateT (Sheets Float) (StateM W)) := renderer fs.lift
    let page := s.names.page s.pagesDrawn
    ∃ drawn layout, ((sheets.compose solid spec).run.run s).run w = ((.ok page, drawn), w) ∧
      drawn.exportable page = .ok layout ∧
      ((sheets.project policy solid spec targets).run.run s).run w =
        match (fs.saveAll drawn.config layout targets).run.run w with
        | (.ok (), w') => ((.ok ⟨page, targets.pdf, targets.svg⟩, drawn), w')
        | (.error reason, w') => ((.error (.renderer (.io reason)), drawn), w') := by
  intro sheets page
  obtain ⟨drawn, layout, hcompose, hexportable⟩ :=
    exists_run_compose (fs.lift : FileSystem (StateT (Sheets Float) (StateM W))) s hfault solid
  refine ⟨drawn, layout, ?_, hexportable, ?_⟩
  case refine_1 =>
    rw [hcompose]
    rfl
  case refine_2 =>
    rw [Renderer.project_eq_compose _ hfault, run_bind_of_ok hcompose]
    exact run_exports fs hexportable targets w

/-- Whatever is on the sheets, a drawing without a fault fails only where a file does: all calls before the files are
answered, and the page is laid out by then. -/
theorem project_fails_io {W : Type} (fs : FileSystem (StateM W)) (s : Sheets Float) {policy : Policy}
    {spec : DrawingSpec Float} (hfault : spec.fault? policy = none) (solid : SolidRef) (targets : ExportTargets)
    (w : W) :
    let sheets : Renderer Float (StateT (Sheets Float) (StateM W)) := renderer fs.lift
    let done := ((sheets.project policy solid spec targets).run.run s).run w
    let page := s.names.page s.pagesDrawn
    (∀ e, done.1.1 = .error e → ∃ reason, e = .renderer (.io reason)) ∧
      ∃ drawn layout, ((sheets.compose solid spec).run.run s).run w = ((.ok page, drawn), w) ∧
        drawn.exportable page = .ok layout ∧
        done = match (fs.saveAll drawn.config layout targets).run.run w with
          | (.ok (), w') => ((.ok ⟨page, targets.pdf, targets.svg⟩, drawn), w')
          | (.error reason, w') => ((.error (.renderer (.io reason)), drawn), w') := by
  intro sheets done page
  obtain ⟨drawn, layout, hcompose, hexportable, hdone⟩ := exists_run_project fs s hfault solid targets w
  refine ⟨fun e he => ?_, drawn, layout, hcompose, hexportable, hdone⟩
  rw [show done = _ from hdone] at he
  rcases hfiles : (fs.saveAll drawn.config layout targets).run.run w with ⟨reason | _, w'⟩
  case error =>
    rw [hfiles] at he
    cases he
    exact ⟨reason, rfl⟩
  case ok =>
    rw [hfiles] at he
    cases he

/-- A bracket from the front and along two directions of extreme length, the last two under one id. -/
def bracketDrawing : DrawingSpec Float :=
  ⟨"Bracket", "A4", [⟨"front", ⟨0, 1, 0⟩, false, none, none⟩, ⟨"far", ⟨1e200, 0, 0⟩, false, none, none⟩,
    ⟨"far", ⟨1e-160, 0, 0⟩, true, none, some 2⟩], [⟨"far", "linear", "40", []⟩, ⟨"front", "radius", "3", ["edge4"]⟩]⟩

/-- On a disk that is full. -/
theorem project_fails_io_bracketDrawing :
    let full : FileSystem (StateM Unit) := ⟨"/", fun _ => throw "full", fun _ => throw "full", fun _ _ => throw "full"⟩
    let s : Sheets Float := ((Sheets.empty ⟨297, 210, 10, 20, 2, 4⟩ .numbered).createPage "Plate" "A4").2
    let sheets : Renderer Float (StateT (Sheets Float) (StateM Unit)) := renderer full.lift
    let done := ((sheets.project {} ⟨⟨"solid0"⟩, "csg"⟩ bracketDrawing ⟨none, some "/a.svg"⟩).run.run s).run ()
    bracketDrawing.fault? {} = none ∧ done.1.1 = .error (.renderer (.io "full")) := by
  intro full s sheets done
  have hfault : bracketDrawing.fault? {} = none := by decide +kernel
  obtain ⟨-, drawn, layout, -, -, hdone⟩ := project_fails_io full s hfault ⟨⟨"solid0"⟩, "csg"⟩ ⟨none, some "/a.svg"⟩ ()
  refine ⟨hfault, ?_⟩
  rw [show done = _ from hdone]
  rfl

end

end Sheets

end SolidDrawing
