import SolidDrawing.Proofs.Runs
import SolidDrawing.Proofs.SheetEvents
import SolidDrawing.Sheet.Pages

/-!
# Single calls to the sheet renderer

What one call to the sheet renderer does to the pages and to the files (`Sheets.step`). It makes a page, edits one of
them, gives all of them up, or leaves them as they are (`Sheets.step_cases`); a page is written only if it is exportable
(`Sheets.step_export`).
-/

namespace SolidDrawing

/-- The formats that a page is written in. -/
inductive SheetFormat where
  | pdf
  | svg

namespace SheetFormat

/-- The call that writes the page to a file. -/
def call : SheetFormat → PageId → String → RenderCall Float
  | pdf, page, path => .exportPdf page path
  | svg, page, path => .exportSvg page path

/-- The call with its answer. -/
def event : SheetFormat → PageId → String → Except RenderError Unit → RenderEvent Float
  | pdf, page, path, answer => .exportPdf page path answer
  | svg, page, path, answer => .exportSvg page path answer

/-- What is in the file. -/
def bytes : SheetFormat → SheetConfig Float → Layout Float → List UInt8
  | pdf, config, layout => Pdf.document config layout
  | svg, config, layout => (Svg.document config layout).toUTF8.toList

end SheetFormat

/-- A file is saved beneath a state as it is without one. -/
theorem FileSystem.save_beneath {σ : Type} {m : Type → Type} [Monad m] [LawfulMonad m] (fs : FileSystem m)
    (path : String) (bytes : List UInt8) (s : σ) :
    Beneath s (fs.save path bytes) ((fs.lift : FileSystem (StateT σ m)).save path bytes) := by
  have hwrite : Beneath s (fs.write ⟨path⟩ bytes) ((fs.lift : FileSystem (StateT σ m)).write ⟨path⟩ bytes) := .lift _
  have hmake (p : Path) : Beneath s (fs.makeDirectories p) ((fs.lift : FileSystem (StateT σ m)).makeDirectories p) :=
    .lift _
  simp only [save]
  cases Path.parent? ⟨path⟩ with
  | none => exact hwrite
  | some parent =>
    dsimp only
    split
    case isTrue => exact hwrite
    case isFalse => exact .bind (hmake parent) fun _ => hwrite

namespace Sheets

variable {W : Type} (fs : FileSystem (StateM W))

/-- One call to the renderer of the sheets, which writes to a world of files, with the event that it leaves. -/
def step (state : Sheets Float × W) (call : RenderCall Float) : RenderEvent Float × (Sheets Float × W) :=
  let sheets : Renderer Float (StateT (Sheets Float) (StateM W)) := renderer fs.lift
  let next := ((sheets.make call).run state.1).run state.2
  (next.1.1, (next.1.2, next.2))

/-! ### One call -/

/-- Files that are written through a state on top leave it as it is. -/
theorem run_save_lift {σ : Type} (path : String) (bytes : List UInt8) (s : σ) (w : W) :
    (((fs.lift : FileSystem (StateT σ (StateM W))).save path bytes).run.run s).run w =
      ((((fs.save path bytes).run.run w).1, s), ((fs.save path bytes).run.run w).2) := by
  have hsave : ((fs.lift : FileSystem (StateT σ (StateM W))).save path bytes).run.run s = _ :=
    fs.save_beneath path bytes s
  rw [hsave, StateT.run_map]
  rfl

private theorem step_of_run {α : Type} {call : RenderCall Float} {event : Except RenderError α → RenderEvent Float}
    {x : ExceptT RenderError (StateT (Sheets Float) (StateM W)) α} {s s' : Sheets Float} {w w' : W}
    {answer : Except RenderError α} (hmake : (renderer fs.lift).make call = x.run >>= fun answer => pure (event answer))
    (h : (x.run.run s).run w = ((answer, s'), w')) : step fs (s, w) call = (event answer, (s', w')) := by
  simp only [step, hmake, StateT.run_bind, h]
  rfl

/-- The answer of an update, and the sheets after it: as they were if it fails. -/
def settle {K α : Type} (s : Sheets K) : Except RenderError (α × Sheets K) → Except RenderError α × Sheets K
  | .ok (a, s') => (.ok a, s')
  | .error e => (.error e, s)

private theorem run_update {α : Type} (f : Sheets Float → Except RenderError (α × Sheets Float)) (s : Sheets Float)
    (w : W) :
    (StateT.run (modifyGet fun s =>
      match f s with
      | .ok (a, s) => (.ok a, s)
      | .error e => (.error e, s) : StateT (Sheets Float) (StateM W) (Except RenderError α)) s).run w =
      (((s.settle (f s)).1, (s.settle (f s)).2), w) := by
  change ((match f s with
    | .ok (a, s) => (.ok a, s)
    | .error e => (.error e, s) : Except RenderError α × Sheets Float), w) = _
  cases f s <;> rfl

theorem step_addBody (s : Sheets Float) (w : W) (page : PageId) (solid : SolidRef) :
    step fs (s, w) (.addBody page solid) =
      (.addBody page solid (s.settle (s.addBody page solid)).1, ((s.settle (s.addBody page solid)).2, w)) :=
  step_of_run fs rfl (run_update (addBody page solid) s w)

theorem step_addView (s : Sheets Float) (w : W) (page : PageId) (body : BodyId) (request : ViewRequest Float) :
    step fs (s, w) (.addView page body request) =
      (.addView page body request (s.settle (s.addView page body request)).1,
        ((s.settle (s.addView page body request)).2, w)) :=
  step_of_run fs rfl (run_update (addView page body request) s w)

theorem step_addDimension (s : Sheets Float) (w : W) (page : PageId) (view : ViewId) (d : DimensionRequest) :
    step fs (s, w) (.addDimension page view d) =
      (.addDimension page view d (s.settle ((s.addDimension page view d).map ((), ·))).1,
        ((s.settle ((s.addDimension page view d).map ((), ·))).2, w)) :=
  step_of_run fs rfl (run_update (fun s => (s.addDimension page view d).map ((), ·)) s w)

theorem step_recompute (s : Sheets Float) (w : W) (page : PageId) :
    step fs (s, w) (.recompute page) =
      (.recompute page (s.settle ((s.recompute page).map ((), ·))).1,
        ((s.settle ((s.recompute page).map ((), ·))).2, w)) :=
  step_of_run fs rfl (run_update (fun s => (s.recompute page).map ((), ·)) s w)

/-- Writes what is in a page's file, if the page can be written. -/
private theorem run_export (file : SheetConfig Float → Layout Float → List UInt8) (page : PageId) (path : String)
    (s : Sheets Float) (w : W) :
    let read : ExceptT RenderError (StateT (Sheets Float) (StateM W)) (Layout Float × SheetConfig Float) :=
      (modifyGet fun s => ((s.exportable page).map (·, s.config), s) :
        StateT (Sheets Float) (StateM W) (Except RenderError (Layout Float × SheetConfig Float)))
    (StateT.run (ExceptT.run (do
      let (layout, config) ← read
      ((fs.lift : FileSystem (StateT (Sheets Float) (StateM W))).save path (file config layout)).adapt .io)) s).run w =
      match s.exportable page with
      | .ok layout =>
        let saved := (fs.save path (file s.config layout)).run.run w
        ((saved.1.mapError .io, s), saved.2)
      | .error e => ((.error e, s), w) := by
  intro read
  have hread : (read.run.run s).run w = (((s.exportable page).map (·, s.config), s), w) := rfl
  rw [run_bind_log, hread]
  cases s.exportable page with
  | error e => rfl
  | ok layout =>
    simp only [Except.map, ExceptT.run_adapt, StateT.run_map, run_save_lift]
    rfl

theorem step_export (s : Sheets Float) (w : W) (format : SheetFormat) (page : PageId) (path : String) :
    step fs (s, w) (format.call page path) =
      match s.exportable page with
      | .ok layout =>
        let saved := (fs.save path (format.bytes s.config layout)).run.run w
        (format.event page path (saved.1.mapError .io), (s, saved.2))
      | .error e => (format.event page path (.error e), (s, w)) := by
  have hrun := run_export fs format.bytes page path s w
  cases hpage : s.exportable page with
  | error e =>
    rw [hpage] at hrun
    cases format <;> exact step_of_run fs rfl hrun
  | ok layout =>
    rw [hpage] at hrun
    cases format <;> exact step_of_run fs rfl hrun

theorem step_createPage (s : Sheets Float) (w : W) (title template : String) :
    step fs (s, w) (.createPage title template) =
      (.createPage title template (.ok (s.createPage title template).1), ((s.createPage title template).2, w)) := rfl

/-! ### All that a call can do -/

/-- A call that changes a page or lays it out, the page after it, and how many names of views are used up by then. -/
inductive Edit {K : Type} [Scalar K] [DecimalText K] (s : Sheets K) (id : PageId) (p : Page K) :
    RenderEvent K → Page K → Nat → Prop
  | addBody (solid : SolidRef) (body : BodyId) :
    Edit s id p (.addBody id solid (.ok body)) { p with bodies := (body, solid) :: p.bodies, stale := true }
      s.viewsDrawn
  | addView (body : BodyId) (request : ViewRequest K) :
    Edit s id p (.addView id body request (.ok (s.names.view s.viewsDrawn)))
      { p with views := p.views ++ [⟨s.names.view s.viewsDrawn, request, []⟩], stale := true } (s.viewsDrawn + 1)
  | addDimension (view : ViewId) (d : DimensionRequest) (known : ∃ v ∈ p.views, v.id = view) :
    Edit s id p (.addDimension id view d (.ok ()))
      { p with views := p.views.map fun v => if v.id == view then { v with dimensions := v.dimensions ++ [d] } else v,
               stale := true } s.viewsDrawn
  | recompute :
    Edit s id p (.recompute id (.ok ()))
      { p with layout := some (s.config.layout p.title p.template p.views), stale := false } s.viewsDrawn

/-- All that a call can do. -/
inductive Step (s : Sheets Float) (w : W) : RenderEvent Float × (Sheets Float × W) → Prop
  | created (title template : String) : Step s w
    (.createPage title template (.ok (s.createPage title template).1), ((s.createPage title template).2, w))
  | edited {id : PageId} {p p' : Page Float} {ev : RenderEvent Float} {views : Nat} (bodies : Nat)
    (found : s.page id = .ok p) (edit : Edit s id p ev p' views) :
    Step s w (ev, ({ s with bodiesDrawn := bodies, viewsDrawn := views }.setPage id p', w))
  | cleared : Step s w (.shutdown, (s.clear, w))
  | same (ev : RenderEvent Float) (w' : W) (unchanged : ∀ id, ¬ ev.Changed id)
    (notLaidOut : ∀ id, ev ≠ .recompute id (.ok ())) (running : ev.isShutdown = false) : Step s w (ev, (s, w'))

theorem step_cases (s : Sheets Float) (w : W) (call : RenderCall Float) : Step s w (step fs (s, w) call) := by
  -- what fails has no effect, whichever check it was that failed
  have hsame {ev : RenderEvent Float} (e : RenderError) (h : ev.error? = some e) : Step s w (ev, (s, w)) := by
    refine .same ev w ?_ ?_ ?_
    · rintro id (_ | _ | _ | _) <;> cases h
    · rintro id rfl
      cases h
    · cases ev <;> first | rfl | cases h
  have hexport (format : SheetFormat) (id : PageId) (path : String) :
      Step s w (step fs (s, w) (format.call id path)) := by
    rw [step_export]
    cases s.exportable id with
    | error e => cases format <;> exact hsame e rfl
    | ok layout => cases format <;> exact .same _ _ (by rintro _ (_ | _ | _ | _)) (by rintro _ (_ | _)) rfl
  cases call with
  | createPage title template => exact .created title template
  | shutdown => exact .cleared
  | addBody id solid =>
    rw [step_addBody, addBody]
    cases hp : s.page id with
    | error e => exact hsame e rfl
    | ok p => exact .edited _ hp (.addBody solid _)
  | addView id body request =>
    rw [step_addView, addView]
    cases hp : s.page id with
    | error e => exact hsame e rfl
    | ok p =>
      simp only [bind, Except.bind, pure, Except.pure]
      split
      case isTrue => exact hsame _ rfl
      case isFalse =>
        split
        case isTrue => exact hsame _ rfl
        case isFalse => exact .edited s.bodiesDrawn hp (.addView body request)
  | addDimension id view d =>
    rw [step_addDimension, addDimension]
    cases hp : s.page id with
    | error e => exact hsame e rfl
    | ok p =>
      simp only [bind, Except.bind, pure, Except.pure]
      split
      case isTrue => exact hsame _ rfl
      case isFalse hview =>
        exact .edited s.bodiesDrawn hp (.addDimension view d (by simpa using hview))
  | recompute id =>
    rw [step_recompute, recompute]
    cases hp : s.page id with
    | error e => exact hsame e rfl
    | ok p => exact .edited s.bodiesDrawn hp .recompute
  | exportPdf id path => exact hexport .pdf id path
  | exportSvg id path => exact hexport .svg id path

section

variable {K : Type} [Scalar K] [DecimalText K] {s : Sheets K} {id : PageId} {p p' : Page K} {ev : RenderEvent K}
  {views : Nat}

theorem Edit.not_madePage (h : Edit s id p ev p' views) (other : PageId) : ¬ ev.MadePage other := by
  rintro ⟨title, template, rfl⟩
  cases h

theorem Edit.isShutdown_eq (h : Edit s id p ev p' views) : ev.isShutdown = false := by
  cases h <;> rfl

theorem Edit.le_views (h : Edit s id p ev p' views) : s.viewsDrawn ≤ views := by
  cases h <;> simp

theorem Edit.eq_of_changed (h : Edit s id p ev p' views) {other : PageId} (hev : ev.Changed other) : other = id := by
  cases hev <;> cases h <;> rfl

theorem Edit.ne_recompute (h : Edit s id p ev p' views) {other : PageId} (hother : other ≠ id) :
    ev ≠ .recompute other (.ok ()) := by
  rintro rfl
  cases h
  exact hother rfl

/-- A view that an edit shows is new, or is on the page. -/
theorem Edit.shown (h : Edit s id p ev p' views) {view : ViewId} (hview : ev.Shown view) :
    (∃ n < views, s.names.view n = view) ∨ ∃ v ∈ p.views, v.id = view := by
  cases h with
  | addBody => cases hview
  | recompute => cases hview
  | addView body request =>
    cases hview
    exact .inl ⟨s.viewsDrawn, Nat.lt_succ_self _, rfl⟩
  | addDimension view' d known =>
    cases hview
    exact .inr known

end

theorem page_createPage {K : Type} (s : Sheets K) (title template : String) (id : PageId) :
    (s.createPage title template).2.page id =
      if id = (s.createPage title template).1 then .ok ⟨title, template, [], [], none, true⟩ else s.page id := by
  by_cases h : s.names.page s.pagesDrawn = id
  · simp [page, createPage, h]
  · have hne : (s.names.page s.pagesDrawn == id) = false := by simpa using h
    rw [if_neg (show id ≠ (s.createPage title template).1 from Ne.symm h)]
    simp only [page, createPage, List.find?_cons, hne]

end Sheets

end SolidDrawing
