import SolidDrawing.Job.Run
import SolidDrawing.Proofs.DrawnPages
import SolidDrawing.Proofs.SessionCourses

/-!
# How jobs end

A job that is run as settings say ends in one of a few ways (`Settings.Ending`), each with what was done to the files
until then: nothing before the solid is built and measured, then the directory of the page, and then the files.
-/

namespace SolidDrawing

/-! ### Building -/

namespace Store

variable {m : Type → Type} [Monad m]

theorem onTop_make (call : KernelCall Float) :
    OnTop ((kernel : Kernel Float (StateT (Store Float) m)).make call) := by
  intro s
  cases call <;> exact ⟨_, _, rfl⟩

variable [LawfulMonad m]

private theorem onTop_perform (h : Held SolidRef) (steps : List (BuildStep Float)) :
    OnTop ((kernel : Kernel Float (StateT (Store Float) m)).perform h steps) := by
  induction steps generalizing h with
  | nil => exact .pure h
  | cons step steps ih =>
    rw [Kernel.perform_cons]
    exact (onTop_make _).bind fun r => ih _

/-- A solid is built, or not, whatever there is beneath the store. -/
theorem onTop_build (spec : SolidSpec Float) :
    OnTop ((kernel : Kernel Float (StateT (Store Float) m)).build spec) := by
  unfold Kernel.build
  cases Plan.ofSpec spec with
  | error e => exact .throw _
  | ok plan =>
    have hexecute : OnTop ((kernel : Kernel Float (StateT (Store Float) m)).execute plan) := by
      rw [Kernel.execute_eq_perform]
      exact (onTop_make _).bind fun r => (onTop_perform _ _).map _
    exact hexecute.adapt _

theorem run_survey (solid : SolidRef) (s : Store Float) :
    ((kernel : Kernel Float (StateT (Store Float) m)).survey solid).run s = pure ((), s) := by
  have hmeasure : ((kernel : Kernel Float (StateT (Store Float) m)).measure solid).run.run s =
      pure (s.measure solid, s) := rfl
  have hbounds : ((kernel : Kernel Float (StateT (Store Float) m)).bounds solid).run.run s =
      pure (s.bounds solid, s) := rfl
  rw [Kernel.survey, StateT.run_bind, hmeasure, pure_bind]
  cases s.measure solid with
  | ok _ => rfl
  | error _ =>
    dsimp only
    rw [StateT.run_bind, hbounds, pure_bind]
    rfl

end Store

/-! ### A renderer with another state on top -/

theorem Session.run_within_none {ε α : Type} {m : Type → Type} [Monad m] [LawfulMonad m] (shutdown : m Unit)
    (work : ExceptT ε m α) : (within none shutdown work).run = do
      let result ← work.run
      shutdown
      return result := run_conduct_none .scoped shutdown work

namespace Renderer

variable {K : Type} {σ : Type} {m : Type → Type} [Monad m] [LawfulMonad m]

/-- The second renderer is the first one with a state on top, which is `s` and stays so. -/
structure IsBeneath (s : σ) (r : Renderer K m) (r' : Renderer K (StateT σ m)) : Prop where
  name : r'.name = r.name
  available : r'.available = r.available
  createPage : ∀ title template, Beneath s (r.createPage title template) (r'.createPage title template)
  addBody : ∀ page solid, Beneath s (r.addBody page solid) (r'.addBody page solid)
  addView : ∀ page body view, Beneath s (r.addView page body view) (r'.addView page body view)
  addDimension : ∀ page view d, Beneath s (r.addDimension page view d) (r'.addDimension page view d)
  recompute : ∀ page, Beneath s (r.recompute page) (r'.recompute page)
  exportPdf : ∀ page path, Beneath s (r.exportPdf page path) (r'.exportPdf page path)
  exportSvg : ∀ page path, Beneath s (r.exportSvg page path) (r'.exportSvg page path)
  shutdown : r'.shutdown.run s = (fun a => (a, s)) <$> r.shutdown

namespace IsBeneath

variable {s : σ} {r : Renderer K m} {r' : Renderer K (StateT σ m)}

theorem addViews (h : IsBeneath s r r') (page : PageId) (body : BodyId) (placed : List (String × ViewId))
    (views : List (ViewSpec K)) :
    Beneath s (r.addViews page body placed views) (r'.addViews page body placed views) := by
  induction views generalizing placed with
  | nil => exact .pure placed
  | cons v views ih =>
    rw [addViews_cons, addViews_cons]
    exact .bind (h.addView page body v.request) fun _ => ih _

theorem addDimensions (h : IsBeneath s r r') (page : PageId) (placed : List (String × ViewId)) (index : Nat)
    (dimensions : List DimensionSpec) :
    Beneath s (r.addDimensions page placed index dimensions) (r'.addDimensions page placed index dimensions) := by
  induction dimensions generalizing index with
  | nil => exact .pure ()
  | cons d dimensions ih =>
    unfold Renderer.addDimensions
    cases placed.find? fun p => p.1 == d.viewId with
    | none => exact .throw _
    | some entry => exact .bind (.adapt (h.addDimension page entry.2 d.request) _) fun _ => ih (index + 1)

theorem exportTo {write : PageId → String → ExceptT RenderError m Unit}
    {write' : PageId → String → ExceptT RenderError (StateT σ m) Unit}
    (h : ∀ page path, Beneath s (write page path) (write' page path)) (page : PageId) (target : Option String) :
    Beneath s (Renderer.exportTo write page target) (Renderer.exportTo write' page target) := by
  cases target with
  | none => exact .pure ()
  | some path => exact h page path

theorem project [Scalar K] (h : IsBeneath s r r') (policy : Policy) (solid : SolidRef) (spec : DrawingSpec K)
    (targets : ExportTargets) :
    Beneath s (r.project policy solid spec targets) (r'.project policy solid spec targets) := by
  unfold Renderer.project
  cases spec.fault? policy with
  | some fault => exact .throw _
  | none =>
    refine .bind (.adapt (h.createPage _ _) _) fun page => ?_
    refine .bind (.adapt (h.addBody page solid) _) fun body => ?_
    refine .bind (.adapt (h.addViews page body [] spec.views) _) fun placed => ?_
    refine .bind (.adapt (h.recompute page) _) fun _ => ?_
    refine .bind (h.addDimensions page placed 0 spec.dimensions) fun _ => ?_
    refine .bind (.adapt (h.recompute page) _) fun _ => ?_
    refine .bind (.adapt (exportTo h.exportPdf page targets.pdf) _) fun _ => ?_
    refine .bind (.adapt (exportTo h.exportSvg page targets.svg) _) fun _ => ?_
    exact .pure _

theorem within {ε α : Type} (h : IsBeneath s r r') (ofRenderer : RenderError → ε) {work : ExceptT ε m α}
    {work' : ExceptT ε (StateT σ m) α} (hwork : Beneath s work work') :
    Beneath s (r.within ofRenderer work) (r'.within ofRenderer work') := by
  have hrefusal : r'.refusal? = r.refusal? := by
    rw [refusal?, refusal?, h.name, h.available]
  unfold Beneath at hwork
  rw [Renderer.within, Renderer.within, hrefusal]
  cases r.refusal?.map ofRenderer with
  | some e => exact .throw e
  | none =>
    rw [Beneath, Session.run_within_none, Session.run_within_none, StateT.run_bind, hwork]
    simp [h.shutdown]

end IsBeneath

end Renderer

theorem Renderer.absent_isBeneath {K σ : Type} {m : Type → Type} [Monad m] [LawfulMonad m] (s : σ) :
    Renderer.IsBeneath s (.absent : Renderer K m) .absent where
  name := rfl
  available := rfl
  createPage _ _ := .throw _
  addBody _ _ := .throw _
  addView _ _ _ := .throw _
  addDimension _ _ _ := .throw _
  recompute _ := .throw _
  exportPdf _ _ := .throw _
  exportSvg _ _ := .throw _
  shutdown := by
    change Pure.pure ((), s) = (fun a => (a, s)) <$> (Pure.pure () : m Unit)
    rw [map_pure]

theorem Sheets.isBeneath {σ : Type} {m : Type → Type} [Monad m] [LawfulMonad m] (fs : FileSystem m) (s : σ) :
    Renderer.IsBeneath s (Sheets.renderer (fs.lift : FileSystem (StateT (Sheets Float) m)))
      (Sheets.renderer (fs.lift : FileSystem (StateT σ (StateT (Sheets Float) m)))) where
  name := rfl
  available := rfl
  createPage _ _ := .lift _
  addBody _ _ := .lift _
  addView _ _ _ := .lift _
  addDimension _ _ _ := .lift _
  recompute _ := .lift _
  exportPdf page path := by
    refine .bind (.lift _) fun result => ?_
    exact .adapt (FileSystem.save_beneath _ _ _ _) _
  exportSvg page path := by
    refine .bind (.lift _) fun result => ?_
    exact .adapt (FileSystem.save_beneath _ _ _ _) _
  shutdown := rfl

/-! ### Running -/

/-- Makes the directory that a file lies in, if it lies in one. -/
def FileSystem.makeFor {m : Type → Type} [Monad m] (fs : FileSystem m) (path : String) : ExceptT String m Unit :=
  match Path.parent? ⟨path⟩ with
  | some parent => fs.makeDirectories parent
  | none => pure ()

theorem FileSystem.makeFor_beneath {σ : Type} {m : Type → Type} [Monad m] [LawfulMonad m] (fs : FileSystem m)
    (path : String) (s : σ) : Beneath s (fs.makeFor path) ((fs.lift : FileSystem (StateT σ m)).makeFor path) := by
  unfold makeFor
  cases Path.parent? ⟨path⟩ with
  | none => exact .pure ()
  | some parent => exact .lift _

namespace Job

variable {m : Type → Type} [Monad m]

/-- What is done for a job once its solid is there: the directory is made, and the page is drawn and written. -/
def page (fs : FileSystem m) (renderer : Renderer Float m) (policy : Policy) (job : Job) (pdf : String)
    (svg : Option String) (solid : SolidRef) : ExceptT JobError m Unit := do
  (fs.makeFor pdf).adapt .io
  renderer.within .renderer do
    let _ ← (renderer.project policy solid job.drawing ⟨some pdf, svg⟩).adapt .project

variable [LawfulMonad m]

/-- Once both paths are there, a job is a session with the kernel, and its page is made inside. -/
theorem run_eq_page (fs : FileSystem m) {job : Job} {pdf : String} {svg : Option String}
    (hpdf : absolutePath fs.directory job.pdf = .ok pdf) (hsvg : job.svg.mapM (absolutePath fs.directory) = .ok svg)
    (k : Kernel Float m) (renderer : Renderer Float m) (policy : Policy) :
    job.run fs (.ok k) renderer policy = do
      k.within .kernel do
        let solid ← (k.build job.solid).adapt .build
        k.survey solid
        job.page fs renderer policy pdf svg solid
      return ⟨pdf, svg, job.solid, job.drawing⟩ := by
  rw [run, hpdf, hsvg, liftAs_ok_bind, liftAs_ok_bind, liftAs_ok_bind]
  unfold page FileSystem.makeFor
  cases Path.parent? ⟨pdf⟩ with
  | none => simp only [adapt_pure, pure_bind]
  | some parent => rfl

/-- The solid is built inside the session, and what is drawn then is beneath the store. -/
theorem run_within_kernel {store store' : Store Float} {job : Job} {built : Except (BuildError Float) SolidRef}
    (hbuild : ((Store.kernel : Kernel Float (StateT (Store Float) m)).build job.solid).run.run store =
      pure (built, store'))
    (draw : SolidRef → ExceptT JobError m Unit) (draw' : SolidRef → ExceptT JobError (StateT (Store Float) m) Unit)
    (hdraw : ∀ store solid, Beneath store (draw solid) (draw' solid)) :
    let k : Kernel Float (StateT (Store Float) m) := Store.kernel
    (k.within JobError.kernel do
      let solid ← (k.build job.solid).adapt .build
      k.survey solid
      draw' solid).run.run store = (fun result => (result, store'.clear)) <$> (liftAs .build built >>= draw).run := by
  intro k
  have hbuild' := run_adapt_of_eq hbuild JobError.build
  have hshutdown (s : Store Float) : k.shutdown.run s = pure ((), s.clear) := rfl
  rw [Kernel.within, show k.refusal? = none from rfl, Option.map_none, Session.run_within_none, StateT.run_bind]
  cases built with
  | error e =>
    rw [run_bind_of_error hbuild', liftAs_error_bind]
    simp [hshutdown]
  | ok solid =>
    rw [liftAs_ok_bind]
    -- the solid is measured, but only for the log
    rw [run_bind_of_ok hbuild']
    have hsurvey : (ExceptT.lift (k.survey solid) : ExceptT JobError _ Unit).run.run store' =
        pure (.ok (), store') := by
      rw [ExceptT.run_lift, StateT.run_map, Store.run_survey, map_pure]
    have hpage : (draw' solid).run.run store' = _ := hdraw store' solid
    refine Eq.trans (congrArg (· >>= _) ((run_bind_of_ok hsurvey _).trans hpage)) ?_
    simp [hshutdown]

/-- Drawing and writing takes no notice of the solids. -/
theorem page_beneath {σ : Type} {s : σ} (fs : FileSystem m) {r : Renderer Float m} {r' : Renderer Float (StateT σ m)}
    (h : r.IsBeneath s r') (policy : Policy) (job : Job) (pdf : String) (svg : Option String) (solid : SolidRef) :
    Beneath s (job.page fs r policy pdf svg solid) (job.page fs.lift r' policy pdf svg solid) := by
  have hdraw : Beneath s
      (r.within .renderer do
        let _ ← (r.project policy solid job.drawing ⟨some pdf, svg⟩).adapt JobError.project)
      (r'.within .renderer do
        let _ ← (r'.project policy solid job.drawing ⟨some pdf, svg⟩).adapt JobError.project) :=
    h.within _ (.bind (.adapt (h.project policy solid job.drawing _) _) fun _ => .pure ())
  exact .bind (.adapt (fs.makeFor_beneath pdf s) _) fun _ => hdraw

end Job

/-- An error that a run ends with before it does anything: a path that is none, or a kernel that is not there. -/
inductive JobError.IsEarly : JobError → Prop
  | io (reason : String) : IsEarly (.io reason)
  | settings (e : SettingsError) : IsEarly (.settings e)
  | kernel (reason : String) : IsEarly (.kernel (.notAvailable reason))

namespace Settings

variable {m : Type → Type} [Monad m] [LawfulMonad m] (s : Settings) (fs : FileSystem m)

theorem isBeneath (store : Store Float) : Renderer.IsBeneath store
    (s.rendererIn fs.lift : Renderer Float (StateT (Sheets Float) m))
    (s.rendererIn fs.lift : Renderer Float (Bench m)) := by
  unfold rendererIn
  cases s.renderer with
  | sheet => exact Sheets.isBeneath fs store
  | null => exact Renderer.absent_isBeneath store

/-- A job is refused before anything is done, or its paths and its kernel are there. -/
theorem early_or (job : Job) :
    (∃ e : JobError, e.IsEarly ∧ ∀ names, (s.runJob fs names job).run = pure (.error e)) ∨
      ∃ pdf svg, absolutePath fs.directory job.pdf = .ok pdf ∧ job.svg.mapM (absolutePath fs.directory) = .ok svg ∧
        s.kernel = .csg := by
  let bench : FileSystem (Bench m) := fs.lift
  have hearly {e : JobError} (he : e.IsEarly)
      (hrun : job.run bench s.kernelIn (s.rendererIn bench) s.policy = throw e) :
      ∃ e : JobError, e.IsEarly ∧ ∀ names, (s.runJob fs names job).run = pure (.error e) := by
    refine ⟨e, he, fun names => ?_⟩
    change StateT.run' (StateT.run' (job.run bench s.kernelIn (s.rendererIn bench) s.policy).run _) _ = _
    rw [hrun]
    simp [StateT.run'_eq]
  cases hpdf : absolutePath bench.directory job.pdf with
  | error reason => exact .inl (hearly (.io reason) (by rw [Job.run, hpdf, liftAs_error_bind]))
  | ok pdf =>
    cases hsvg : job.svg.mapM (absolutePath bench.directory) with
    | error reason => exact .inl (hearly (.io reason) (by rw [Job.run, hpdf, liftAs_ok_bind, hsvg, liftAs_error_bind]))
    | ok svg =>
      cases hkernel : s.kernel with
      | csg => exact .inr ⟨pdf, svg, hpdf, hsvg, rfl⟩
      | truck =>
        have hk : (s.kernelIn : Except _ (Kernel Float (Bench m))) = .error (.kernelUnavailable "truck") := by
          rw [kernelIn, hkernel]
        refine .inl (hearly (.settings (.kernelUnavailable "truck")) ?_)
        rw [Job.run, hpdf, liftAs_ok_bind, hsvg, liftAs_ok_bind, hk, liftAs_error_bind]
      | null =>
        have hk : (s.kernelIn : Except _ (Kernel Float (Bench m))) = .ok .absent := by
          rw [kernelIn, hkernel]
        refine .inl (hearly (.kernel "Kernel 'null' is not available") ?_)
        rw [hk, Job.run_eq_page bench hpdf hsvg]
        exact throw_bind _ _

/-- A job whose kernel is there builds the solid, and draws and writes the page on empty sheets. -/
theorem run_runJob (names : JobNames) {job : Job} {pdf : String} {svg : Option String}
    (hpdf : absolutePath fs.directory job.pdf = .ok pdf) (hsvg : job.svg.mapM (absolutePath fs.directory) = .ok svg)
    (hkernel : s.kernel = .csg) {built : Except (BuildError Float) SolidRef} {store : Store Float}
    (hbuild : ((Store.kernel : Kernel Float (Bench m)).build job.solid).run.run (.empty s.store names.solid) =
      pure (built, store)) :
    (s.runJob fs names job).run = (fun result => result.map fun _ => ⟨pdf, svg, job.solid, job.drawing⟩) <$>
      (liftAs .build built >>=
        job.page fs.lift (s.rendererIn (fs.lift : FileSystem (StateT (Sheets Float) m))) s.policy pdf svg).run.run'
        (.empty s.sheet names.sheet) := by
  have hk : (s.kernelIn : Except SettingsError (Kernel Float (Bench m))) = .ok Store.kernel := by
    rw [kernelIn, hkernel]
  let report : JobReport := ⟨pdf, svg, job.solid, job.drawing⟩
  have hrun := Job.run_within_kernel hbuild
    (job.page (fs.lift : FileSystem (StateT (Sheets Float) m)) (s.rendererIn fs.lift) s.policy pdf svg)
    (job.page (fs.lift : FileSystem (Bench m)) (s.rendererIn fs.lift) s.policy pdf svg)
    fun store solid => Job.page_beneath fs.lift (s.isBeneath fs store) s.policy job pdf svg solid
  have hjob := Job.run_eq_page (fs.lift : FileSystem (Bench m)) hpdf hsvg Store.kernel (s.rendererIn fs.lift) s.policy
  rw [bind_pure_comp] at hjob
  have hreport : (job.run (fs.lift : FileSystem (Bench m)) s.kernelIn (s.rendererIn fs.lift) s.policy).run.run'
      (.empty s.store names.solid) = (fun result => result.map fun _ => report) <$> (liftAs .build built >>=
        job.page (fs.lift : FileSystem (StateT (Sheets Float) m)) (s.rendererIn fs.lift) s.policy pdf svg).run := by
    rw [hk, hjob, ExceptT.run_map, StateT.run'_eq, StateT.run_map, hrun, Functor.map_map, Functor.map_map]
  change StateT.run' (StateT.run' (ExceptT.run (job.run fs.lift s.kernelIn (s.rendererIn fs.lift) s.policy)) _) _ = _
  rw [hreport, StateT.run'_eq, StateT.run'_eq, StateT.run_map, Functor.map_map, Functor.map_map]

private theorem eq_of_map_eq_ok {ε α β : Type} {result : Except ε α} {a b : β}
    (h : (result.map fun _ => a) = .ok b) : b = a := by
  cases result with
  | error e => cases h
  | ok _ => exact (Except.ok.inj h).symm

/-- A report repeats the job with the paths from the root on. -/
theorem report_eq {W : Type} (fs : FileSystem (StateM W)) {names : JobNames} {job : Job} {w : W} {report : JobReport}
    (h : ((s.runJob fs names job).run.run w).1 = .ok report) :
    ∃ pdf svg, absolutePath fs.directory job.pdf = .ok pdf ∧ job.svg.mapM (absolutePath fs.directory) = .ok svg ∧
      report = ⟨pdf, svg, job.solid, job.drawing⟩ := by
  rcases s.early_or fs job with ⟨e, he, hrun⟩ | ⟨pdf, svg, hpdf, hsvg, hkernel⟩
  · rw [hrun] at h
    cases h
  · refine ⟨pdf, svg, hpdf, hsvg, ?_⟩
    obtain ⟨built, store, hbuild⟩ := Store.onTop_build (m := StateT (Sheets Float) (StateM W)) job.solid
      (.empty s.store names.solid)
    rw [s.run_runJob fs names hpdf hsvg hkernel hbuild, StateT.run_map] at h
    exact eq_of_map_eq_ok h

/-! ### Endings -/

/-- The layout of a drawing on the first page of new sheets. -/
def layout (names : JobNames) (drawing : DrawingSpec Float) : Layout Float :=
  s.sheet.layout drawing.pageTitle drawing.template (placedViews names.sheet.view drawing.views drawing.dimensions)

theorem nextLayout_empty (names : JobNames) (drawing : DrawingSpec Float) :
    (Sheets.empty s.sheet names.sheet).nextLayout drawing = s.layout names drawing := by
  have hnames : (fun i => names.sheet.view (0 + i)) = names.sheet.view := by
    funext i
    rw [Nat.zero_add]
  simp only [Sheets.nextLayout, Sheets.nextViews, Sheets.empty, layout, hnames]

/-- How a job ends, and what has been done to the files by then. -/
inductive Ending {W : Type} (fs : FileSystem (StateM W)) (names : JobNames) (job : Job) (w : W) :
    Except JobError JobReport → W → Prop
  | early {e : JobError} (h : e.IsEarly) : Ending fs names job w (.error e) w
  | build (e : BuildError Float) : Ending fs names job w (.error (.build e)) w
  | directory {pdf reason : String} {w' : W} (absolute : absolutePath fs.directory job.pdf = .ok pdf)
    (made : (fs.makeFor pdf).run.run w = (.error reason, w')) : Ending fs names job w (.error (.io reason)) w'
  | renderer {pdf reason : String} {w' : W} (absolute : absolutePath fs.directory job.pdf = .ok pdf)
    (made : (fs.makeFor pdf).run.run w = (.ok (), w')) :
    Ending fs names job w (.error (.renderer (.notAvailable reason))) w'
  | drawing {pdf : String} {w' : W} {fault : DrawingFault} (absolute : absolutePath fs.directory job.pdf = .ok pdf)
    (made : (fs.makeFor pdf).run.run w = (.ok (), w')) : Ending fs names job w (.error (.project (.invalid fault))) w'
  | file {pdf reason : String} {svg : Option String} {w' w'' : W}
    (absolute : absolutePath fs.directory job.pdf = .ok pdf ∧ job.svg.mapM (absolutePath fs.directory) = .ok svg)
    (made : (fs.makeFor pdf).run.run w = (.ok (), w'))
    (saved : (fs.saveAll s.sheet (s.layout names job.drawing) ⟨some pdf, svg⟩).run.run w' = (.error reason, w'')) :
    Ending fs names job w (.error (.project (.renderer (.io reason)))) w''
  | done {pdf : String} {svg : Option String} {w' w'' : W}
    (absolute : absolutePath fs.directory job.pdf = .ok pdf ∧ job.svg.mapM (absolutePath fs.directory) = .ok svg)
    (made : (fs.makeFor pdf).run.run w = (.ok (), w'))
    (saved : (fs.saveAll s.sheet (s.layout names job.drawing) ⟨some pdf, svg⟩).run.run w' = (.ok (), w'')) :
    Ending fs names job w (.ok ⟨pdf, svg, job.solid, job.drawing⟩) w''

private theorem run_sheets_within {W α : Type} (fs : FileSystem (StateT (Sheets Float) (StateM W)))
    (work : ExceptT JobError (StateT (Sheets Float) (StateM W)) α) (sheets : Sheets Float) (w : W) :
    ((((Sheets.renderer fs).within .renderer work).run.run sheets).run w).1.1 = ((work.run.run sheets).run w).1.1 ∧
      ((((Sheets.renderer fs).within .renderer work).run.run sheets).run w).2 = ((work.run.run sheets).run w).2 := by
  rw [Renderer.within, show (Sheets.renderer fs).refusal? = none from rfl, Option.map_none, Session.run_within_none]
  exact ⟨rfl, rfl⟩

section

variable {W : Type} (s : Settings) (fs : FileSystem (StateM W)) {names : JobNames} {job : Job} {pdf : String}
  {svg : Option String}

/-- How the page of a job ends, once its directory is made. -/
private theorem ending_draw (hnames : Function.Injective names.sheet.view)
    (absolute : absolutePath fs.directory job.pdf = .ok pdf ∧ job.svg.mapM (absolutePath fs.directory) = .ok svg)
    {w w' : W} (made : (fs.makeFor pdf).run.run w = (.ok (), w')) (solid : SolidRef) :
    let sheets : Renderer Float (StateT (Sheets Float) (StateM W)) := s.rendererIn fs.lift
    let drawn := ((sheets.within JobError.renderer do
      let _ ← (sheets.project s.policy solid job.drawing ⟨some pdf, svg⟩).adapt JobError.project).run.run
        (.empty s.sheet names.sheet)).run w'
    s.Ending fs names job w (drawn.1.1.map fun _ => ⟨pdf, svg, job.solid, job.drawing⟩) drawn.2 := by
  unfold rendererIn
  cases s.renderer with
  | null => exact .renderer absolute.1 made
  | sheet =>
    intro sheets drawn
    have hdrawn := run_sheets_within fs.lift (do
      let _ ← (sheets.project s.policy solid job.drawing ⟨some pdf, svg⟩).adapt JobError.project)
      (.empty s.sheet names.sheet) w'
    rw [run_bind_log, ExceptT.run_adapt, StateT.run_map, StateT.run_map] at hdrawn
    obtain ⟨hresult, hworld⟩ := hdrawn
    rw [show drawn.1.1 = _ from hresult, show drawn.2 = _ from hworld]
    cases hfault : job.drawing.fault? s.policy with
    | some fault =>
      rw [Renderer.project, hfault]
      exact .drawing absolute.1 made
    | none =>
      have hproject := Sheets.run_run_project fs (s := .empty s.sheet names.sheet) hnames hfault solid
        ⟨some pdf, svg⟩ w'
      rw [s.nextLayout_empty names job.drawing, show (Sheets.empty s.sheet names.sheet).config = s.sheet from rfl]
        at hproject
      rcases hsaved : (fs.saveAll s.sheet (s.layout names job.drawing) ⟨some pdf, svg⟩).run.run w' with
        ⟨reason | _, w''⟩
      · rw [hsaved] at hproject
        rw [hproject]
        exact .file absolute made hsaved
      · rw [hsaved] at hproject
        rw [hproject]
        exact .done absolute made hsaved

/-- Whatever the job, the settings and the files are, a run ends in one of these ways. -/
theorem ending_runJob (hnames : Function.Injective names.sheet.view) (job : Job) (w : W) :
    s.Ending fs names job w ((s.runJob fs names job).run.run w).1 ((s.runJob fs names job).run.run w).2 := by
  rcases s.early_or fs job with ⟨e, he, hrun⟩ | ⟨pdf, svg, hpdf, hsvg, hkernel⟩
  · rw [hrun]
    exact .early he
  · obtain ⟨built, store, hbuild⟩ := Store.onTop_build (m := StateT (Sheets Float) (StateM W)) job.solid
      (.empty s.store names.solid)
    rw [s.run_runJob fs names hpdf hsvg hkernel hbuild]
    cases built with
    | error e => exact .build e
    | ok solid =>
      have hmake := fs.makeFor_beneath pdf (Sheets.empty s.sheet names.sheet)
      rw [liftAs_ok_bind, StateT.run_map, StateT.run'_eq, StateT.run_map, Job.page, run_bind_log, ExceptT.run_adapt,
        StateT.run_map, hmake, StateT.run_map, StateT.run_map]
      rcases hmade : (fs.makeFor pdf).run.run w with ⟨reason | _, w'⟩
      · exact .directory hpdf hmade
      · exact s.ending_draw fs hnames ⟨hpdf, hsvg⟩ hmade solid

end

end Settings

end SolidDrawing
