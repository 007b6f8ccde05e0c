import SolidDrawing.Proofs.JobFiles
import SolidDrawing.Proofs.StoreRuns

/-!
# Names and solids behind a page

The names that a job draws for its solids, its page, the body and the views lead from one call to the next, and nothing
else comes of them. A build goes the same way with other names (`Store.build_renamed`), and no document of a layout has
the name of a view in it (`SheetFormat.bytes_unnamed`). So a run is the same with other names
(`Settings.runJob_renamed`), and what a finished run writes is settled by the drawing, whatever the solid is
(`Settings.run_runJob_recorded`).
-/

namespace SolidDrawing

/-! ### Building -/

namespace Store

variable {K : Type} [Scalar K] [DecimalText K]

/-- A step makes the same solid, or fails in the same way, in stores that have the same solids under its handles. -/
theorem made_congr {s s' : Store K} (hconfig : s'.config = s.config) {hr hr' : Held SolidRef} {ht : Held (Solid K)}
    (hh : s.HoldsBoth hr ht) (hh' : s'.HoldsBoth hr' ht) (step : BuildStep K) :
    s'.made (step.call hr') = s.made (step.call hr) := by
  cases step with
  | extrude profile distance direction => rfl
  | createBox size centering => rfl
  | translate offset => rw [BuildStep.call, BuildStep.call, made, made, hh.2.find_eq, hh'.2.find_eq]
  | subtract =>
    rw [BuildStep.call, BuildStep.call, made, made, hh.1.find_eq, hh'.1.find_eq, hh.2.find_eq, hh'.2.find_eq, hconfig]

theorem made_base_call (s s' : Store K) (base : Base K) : s'.made base.call = s.made base.call := by
  cases base <;> rfl

variable {m : Type → Type} [Monad m]

theorem run_make (s : Store K) (call : KernelCall K) :
    ((kernel : Kernel K (StateT (Store K) m)).make call).run.run s = pure (s.make call) := by
  cases call <;> rfl

theorem run_make_ok {s : Store K} {call : KernelCall K} {solid : Solid K} (h : s.made call = .ok solid) :
    ((kernel : Kernel K (StateT (Store K) m)).make call).run.run s =
      pure (.ok (s.insert solid).1, (s.insert solid).2) := by
  rw [run_make, make_eq, h]

theorem run_make_error {s : Store K} {call : KernelCall K} {e : KernelError} (h : s.made call = .error e) :
    ((kernel : Kernel K (StateT (Store K) m)).make call).run.run s = pure (.error e, s) := by
  rw [run_make, make_eq, h]

/-- Both programs end with a result, or both with the same error. -/
def EndAlike {ε α : Type} {n : Type → Type} [Monad n] (s s' : Store K) (x : ExceptT ε (StateT (Store K) m) α)
    (x' : ExceptT ε (StateT (Store K) n) α) : Prop :=
  ∃ result result' t t', x.run.run s = pure (result, t) ∧ x'.run.run s' = pure (result', t') ∧
    result'.map (fun _ => ()) = result.map fun _ => ()

variable {n : Type → Type} [Monad n] [LawfulMonad m] [LawfulMonad n] {s s' : Store K}

theorem EndAlike.of_made_error {α : Type} {call call' : KernelCall K} {e : KernelError} (h : s.made call = .error e)
    (h' : s'.made call' = .error e) (f : SolidRef → ExceptT KernelError (StateT (Store K) m) α)
    (f' : SolidRef → ExceptT KernelError (StateT (Store K) n) α) :
    EndAlike s s' (kernel.make call >>= f) (kernel.make call' >>= f') :=
  ⟨.error e, .error e, s, s', run_bind_of_error (run_make_error h) _, run_bind_of_error (run_make_error h') _, rfl⟩

theorem EndAlike.of_made_ok {α : Type} {call call' : KernelCall K} {solid : Solid K} (h : s.made call = .ok solid)
    (h' : s'.made call' = .ok solid) {f : SolidRef → ExceptT KernelError (StateT (Store K) m) α}
    {f' : SolidRef → ExceptT KernelError (StateT (Store K) n) α}
    (hf : EndAlike (s.insert solid).2 (s'.insert solid).2 (f (s.insert solid).1) (f' (s'.insert solid).1)) :
    EndAlike s s' (kernel.make call >>= f) (kernel.make call' >>= f') := by
  obtain ⟨result, result', t, t', hrun, hrun', hresult⟩ := hf
  refine ⟨result, result', t, t', ?_, ?_, hresult⟩
  · rw [run_bind_of_ok (run_make_ok h), hrun]
  · rw [run_bind_of_ok (run_make_ok h'), hrun']

omit [Scalar K] [DecimalText K] in
theorem EndAlike.map {ε α β : Type} {x : ExceptT ε (StateT (Store K) m) α} {x' : ExceptT ε (StateT (Store K) n) α}
    (h : EndAlike s s' x x') (f : α → β) : EndAlike s s' (f <$> x) (f <$> x') := by
  obtain ⟨result, result', t, t', hrun, hrun', hresult⟩ := h
  refine ⟨result.map f, result'.map f, t, t', ?_, ?_, ?_⟩
  · rw [ExceptT.run_map, StateT.run_map, hrun, map_pure]
  · rw [ExceptT.run_map, StateT.run_map, hrun', map_pure]
  · cases result <;> cases result' <;> simp_all [Except.map]

omit [Scalar K] [DecimalText K] in
theorem EndAlike.adapt {ε ε' α : Type} {x : ExceptT ε (StateT (Store K) m) α}
    {x' : ExceptT ε (StateT (Store K) n) α} (h : EndAlike s s' x x') (f : ε → ε') :
    EndAlike s s' (x.adapt f) (x'.adapt f) := by
  obtain ⟨result, result', t, t', hrun, hrun', hresult⟩ := h
  refine ⟨_, _, t, t', run_adapt_of_eq hrun f, run_adapt_of_eq hrun' f, ?_⟩
  cases result <;> cases result' <;> simp_all [Except.map, Except.mapError]

/-- Steps that are performed on the same solids under other names go the same way. -/
theorem perform_renamed {steps : List (BuildStep K)} (hn : Function.Injective s.names)
    (hn' : Function.Injective s'.names) (hconfig : s'.config = s.config) {hr hr' : Held SolidRef}
    {ht : Held (Solid K)} (hh : s.HoldsBoth hr ht) (hh' : s'.HoldsBoth hr' ht) :
    EndAlike s s' ((kernel : Kernel K (StateT (Store K) m)).perform hr steps)
      ((kernel : Kernel K (StateT (Store K) n)).perform hr' steps) := by
  induction steps generalizing s s' hr hr' ht with
  | nil => exact ⟨.ok hr, .ok hr', s, s', rfl, rfl, rfl⟩
  | cons step steps ih =>
    have hmade := made_congr hconfig hh hh' step
    rw [Kernel.perform_cons, Kernel.perform_cons]
    cases hcall : s.made (step.call hr) with
    | error e => exact .of_made_error hcall (hmade.trans hcall) _ _
    | ok solid =>
      have hmake : s.make (step.call hr) = (.ok (s.insert solid).1, (s.insert solid).2) := by
        rw [make_eq, hcall]
      have hmake' : s'.make (step.call hr') = (.ok (s'.insert solid).1, (s'.insert solid).2) := by
        rw [make_eq, hmade.trans hcall]
      have hnames : Function.Injective (s.insert solid).2.names := hn
      have hnames' : Function.Injective (s'.insert solid).2.names := hn'
      exact .of_made_ok hcall (hmade.trans hcall) (ih hnames hnames' hconfig (hh.after hn hmake) (hh'.after hn' hmake'))

theorem execute_renamed (plan : Plan K) (hn : Function.Injective s.names) (hn' : Function.Injective s'.names)
    (hconfig : s'.config = s.config) : EndAlike s s' ((kernel : Kernel K (StateT (Store K) m)).execute plan)
      ((kernel : Kernel K (StateT (Store K) n)).execute plan) := by
  have hmade := made_base_call s s' plan.base
  rw [Kernel.execute_eq_perform, Kernel.execute_eq_perform]
  cases hcall : s.made plan.base.call with
  | error e => exact .of_made_error hcall (hmade.trans hcall) _ _
  | ok solid =>
    have hh (s : Store K) : (s.insert solid).2.HoldsBoth ⟨(s.insert solid).1, (s.insert solid).1⟩ ⟨solid, solid⟩ :=
      ⟨holds_insert_self s solid, holds_insert_self s solid⟩
    have hnames : Function.Injective (s.insert solid).2.names := hn
    have hnames' : Function.Injective (s'.insert solid).2.names := hn'
    exact .of_made_ok hcall (hmade.trans hcall) (.map (perform_renamed hnames hnames' hconfig (hh s) (hh s')) _)

/-- With other names a build ends with a solid if it did before, and with the same error otherwise. -/
theorem build_renamed (spec : SolidSpec K) (hn : Function.Injective s.names) (hn' : Function.Injective s'.names)
    (hconfig : s'.config = s.config) : EndAlike s s' ((kernel : Kernel K (StateT (Store K) m)).build spec)
      ((kernel : Kernel K (StateT (Store K) n)).build spec) := by
  unfold Kernel.build
  cases Plan.ofSpec spec with
  | error e => exact ⟨.error (.plan e), .error (.plan e), s, s', rfl, rfl, rfl⟩
  | ok plan => exact (execute_renamed plan hn hn' hconfig).adapt _

end Store

/-! ### Layouts -/

section

variable {K : Type}

/-- The layout without the names of the views. -/
def Layout.unnamed (l : Layout K) : Layout K := { l with frames := l.frames.map fun f => { f with view := ⟨""⟩ } }

theorem SheetConfig.unnamed_layout [Scalar K] [DecimalText K] (c : SheetConfig K) (title template : String)
    (names names' : Nat → ViewId) (views : List (ViewSpec K)) (dimensions : List DimensionSpec) :
    (c.layout title template (placedViews names' views dimensions)).unnamed =
      (c.layout title template (placedViews names views dimensions)).unnamed := by
  simp only [layout, Layout.unnamed, length_placedViews]
  congr 1
  refine List.ext_getElem? fun i => ?_
  simp only [List.getElem?_map, List.getElem?_mapIdx, placedViews]
  cases views[i]? with
  | none => rfl
  | some v => rfl

variable [Scalar K]

theorem Svg.elements_unnamed (c : SheetConfig K) (l : Layout K) : elements c l.unnamed = elements c l := by
  have hframes : l.unnamed.frames.flatMap (frameElements c.lineHeight) =
      l.frames.flatMap (frameElements c.lineHeight) := List.flatMap_map ..
  simp only [elements, hframes]
  rfl

theorem Pdf.operators_unnamed (c : SheetConfig K) (l : Layout K) : operators c l.unnamed = operators c l := by
  have hframes : l.unnamed.frames.flatMap (drawFrame c) = l.frames.flatMap (drawFrame c) := List.flatMap_map ..
  simp only [operators, hframes]
  rfl

end

/-- No document shows the name of a view. -/
theorem SheetFormat.bytes_unnamed (format : SheetFormat) (c : SheetConfig Float) (l : Layout Float) :
    format.bytes c l.unnamed = format.bytes c l := by
  cases format with
  | pdf =>
    have hcontent : Pdf.content c l.unnamed = Pdf.content c l := by
      rw [Pdf.content, Pdf.content, Pdf.operators_unnamed]
    have hobjects : Pdf.objects c l.unnamed = Pdf.objects c l := by
      simp only [Pdf.objects, hcontent]
      rfl
    show Pdf.document c l.unnamed = Pdf.document c l
    rw [Pdf.document, Pdf.document, hobjects]
  | svg =>
    show (Svg.document c l.unnamed).toUTF8.toList = (Svg.document c l).toUTF8.toList
    rw [Svg.document, Svg.document, Svg.elements_unnamed]

theorem FileSystem.saveAll_unnamed {m : Type → Type} [Monad m] (fs : FileSystem m) (c : SheetConfig Float)
    (l : Layout Float) (targets : ExportTargets) : fs.saveAll c l.unnamed targets = fs.saveAll c l targets := by
  rw [saveAll, saveAll, SheetFormat.bytes_unnamed, SheetFormat.bytes_unnamed]

/-! ### Pages -/

section

variable {ε σ α β : Type} {m : Type → Type} [Monad m] [LawfulMonad m]

/-- A program that goes on where another one left a state on top alone, and then gives the state up. -/
theorem Beneath.run'_bind {s : σ} {x : ExceptT ε m α} {y : ExceptT ε (StateT σ m) α} {f : α → ExceptT ε m β}
    {g : α → ExceptT ε (StateT σ m) β} (h : Beneath s x y) (hf : ∀ a, (g a).run.run' s = (f a).run) :
    (y >>= g).run.run' s = (x >>= f).run := by
  unfold Beneath at h
  rw [StateT.run'_eq, ExceptT.run_bind, StateT.run_bind, h, ExceptT.run_bind, bind_map_left, map_bind]
  refine bind_congr fun result => ?_
  cases result with
  | error e => simp
  | ok a => exact (StateT.run'_eq _ _).symm.trans (hf a)

theorem Sheets.run'_within (fs : FileSystem (StateT (Sheets Float) m)) (ofRenderer : RenderError → ε)
    (work : ExceptT ε (StateT (Sheets Float) m) α) (s : Sheets Float) :
    ((Sheets.renderer fs).within ofRenderer work).run.run' s = work.run.run' s := by
  rw [Renderer.within, show (Sheets.renderer fs).refusal? = none from rfl, Option.map_none, Session.run_within_none,
    StateT.run'_eq, StateT.run'_eq, StateT.run_bind, map_bind, map_eq_pure_bind]
  refine bind_congr fun result => ?_
  have hshutdown : (Sheets.renderer fs).shutdown.run result.2 = pure ((), result.2.clear) := rfl
  rw [StateT.run_bind, hshutdown, pure_bind, StateT.run_pure, map_pure]

theorem run'_throw (e : ε) (s : σ) :
    (throw e : ExceptT ε (StateT σ m) α).run.run' s = (throw e : ExceptT ε m α).run := by
  rw [StateT.run'_eq, ExceptT.run_throw, StateT.run_pure, map_pure, ExceptT.run_throw]

theorem adapt_throw {ε' : Type} (e : ε) (f : ε → ε') : (throw e : ExceptT ε m α).adapt f = throw (f e) := by
  refine ExceptT.ext ?_
  rw [ExceptT.run_adapt, ExceptT.run_throw, map_pure, ExceptT.run_throw]
  rfl

end

namespace Settings

variable {m : Type → Type} [Monad m] (s : Settings) (fs : FileSystem m)

/-- What is done to the files for a drawing that is laid out so. -/
def writePage (drawing : DrawingSpec Float) (layout : Layout Float) (pdf : String) (svg : Option String) :
    ExceptT JobError m Unit := do
  (fs.makeFor pdf).adapt .io
  match s.renderer with
  | .null => throw (.renderer (.notAvailable "Renderer 'null' is not available"))
  | .sheet =>
    match drawing.fault? s.policy with
    | some fault => throw (.project (.invalid fault))
    | none => (fs.saveAll s.sheet layout ⟨some pdf, svg⟩).adapt fun reason => .project (.renderer (.io reason))

variable [LawfulMonad m]

/-- On empty sheets, nothing but the layout of the drawing comes of a page. -/
theorem run'_page {names : JobNames} (hnames : Function.Injective names.sheet.view) (job : Job) (pdf : String)
    (svg : Option String) (solid : SolidRef) :
    (job.page fs.lift (s.rendererIn (fs.lift : FileSystem (StateT (Sheets Float) m))) s.policy pdf svg solid).run.run'
        (.empty s.sheet names.sheet) =
      (s.writePage fs job.drawing (s.layout names job.drawing) pdf svg).run := by
  refine Beneath.run'_bind (.adapt (fs.makeFor_beneath pdf _) _) fun _ => ?_
  unfold rendererIn
  cases s.renderer with
  | null => exact run'_throw _ _
  | sheet =>
    dsimp only
    rw [Sheets.run'_within]
    cases hfault : job.drawing.fault? s.policy with
    | some fault =>
      rw [Renderer.project, hfault]
      dsimp only
      rw [adapt_throw, throw_bind, run'_throw]
    | none =>
      have hproject := Sheets.run_project fs (s := .empty s.sheet names.sheet) hnames hfault solid ⟨some pdf, svg⟩
      rw [s.nextLayout_empty names job.drawing] at hproject
      dsimp only at hproject ⊢
      rw [bind_pure_comp, ExceptT.run_map, ExceptT.run_adapt, ExceptT.run_adapt] at hproject
      rw [bind_pure_comp, ExceptT.run_map, ExceptT.run_adapt, StateT.run'_eq, StateT.run_map, StateT.run_map, hproject,
        ExceptT.run_adapt]
      simp only [Functor.map_map]
      refine congrArg (· <$> _) (funext fun result => ?_)
      cases result <;> rfl

theorem unnamed_layout (names names' : JobNames) (drawing : DrawingSpec Float) :
    (s.layout names' drawing).unnamed = (s.layout names drawing).unnamed :=
  s.sheet.unnamed_layout drawing.pageTitle drawing.template _ _ drawing.views drawing.dimensions

omit [LawfulMonad m] in
theorem writePage_renamed (names names' : JobNames) (drawing : DrawingSpec Float) (pdf : String)
    (svg : Option String) : s.writePage fs drawing (s.layout names' drawing) pdf svg =
      s.writePage fs drawing (s.layout names drawing) pdf svg := by
  have hsave (targets : ExportTargets) : fs.saveAll s.sheet (s.layout names' drawing) targets =
      fs.saveAll s.sheet (s.layout names drawing) targets := by
    rw [← fs.saveAll_unnamed, s.unnamed_layout names names', fs.saveAll_unnamed]
  simp only [writePage, hsave]

/-- What a run comes to if the kernel is there: the solid is built or not, and then the page is written. -/
theorem run_runJob_of_build {names : JobNames} (hnames : Function.Injective names.sheet.view) {job : Job}
    {pdf : String} {svg : Option String} (hpdf : absolutePath fs.directory job.pdf = .ok pdf)
    (hsvg : job.svg.mapM (absolutePath fs.directory) = .ok svg) (hkernel : s.kernel = .csg)
    {built : Except (BuildError Float) SolidRef} {store : Store Float}
    (hbuild : ((Store.kernel : Kernel Float (Bench m)).build job.solid).run.run (.empty s.store names.solid) =
      pure (built, store)) :
    (s.runJob fs names job).run = (fun result => result.map fun _ => ⟨pdf, svg, job.solid, job.drawing⟩) <$>
      (liftAs .build (built.map fun _ => ()) >>= fun _ =>
        s.writePage fs job.drawing (s.layout names job.drawing) pdf svg).run := by
  rw [s.run_runJob fs names hpdf hsvg hkernel hbuild]
  cases built with
  | error e => rw [Except.map, liftAs_error_bind, liftAs_error_bind, run'_throw]
  | ok solid => rw [Except.map, liftAs_ok_bind, liftAs_ok_bind, s.run'_page fs hnames]

end Settings

/-- A name of its own for every solid, page, body and view. -/
structure JobNames.Distinct (names : JobNames) : Prop where
  solid : Function.Injective names.solid
  page : Function.Injective names.sheet.page
  body : Function.Injective names.sheet.body
  view : Function.Injective names.sheet.view

namespace Settings

variable {m : Type → Type} [Monad m] [LawfulMonad m] (s : Settings) (fs : FileSystem m) {names names' : JobNames}

/-- A run does not depend on the names that it draws. -/
theorem runJob_renamed (hnames : names.Distinct) (hnames' : names'.Distinct) (job : Job) :
    s.runJob fs names' job = s.runJob fs names job := by
  refine ExceptT.ext ?_
  rcases s.early_or fs job with ⟨e, -, hrun⟩ | ⟨pdf, svg, hpdf, hsvg, hkernel⟩
  · rw [hrun, hrun]
  · have hbuilds : Store.EndAlike (.empty s.store names.solid) (.empty s.store names'.solid)
        ((Store.kernel : Kernel Float (Bench m)).build job.solid)
        ((Store.kernel : Kernel Float (Bench m)).build job.solid) :=
      Store.build_renamed job.solid hnames.solid hnames'.solid rfl
    obtain ⟨built, built', t, t', hbuild, hbuild', hresult⟩ := hbuilds
    rw [s.run_runJob_of_build fs hnames.view hpdf hsvg hkernel hbuild,
      s.run_runJob_of_build fs hnames'.view hpdf hsvg hkernel hbuild', hresult, s.writePage_renamed fs names names']

end Settings

/-! ### What is written -/

/-- The files that a layout is written to, in order. -/
def SheetConfig.exports (c : SheetConfig Float) (l : Layout Float) (targets : ExportTargets) :
    List (Path × List UInt8) :=
  (targets.pdf.map fun path => (⟨path⟩, SheetFormat.pdf.bytes c l)).toList ++
    (targets.svg.map fun path => (⟨path⟩, SheetFormat.svg.bytes c l)).toList

theorem SheetConfig.exports_unnamed (c : SheetConfig Float) (l : Layout Float) (targets : ExportTargets) :
    c.exports l.unnamed targets = c.exports l targets := by
  rw [exports, exports, SheetFormat.bytes_unnamed, SheetFormat.bytes_unnamed]

namespace FileSystem

/-- The same access with a record of what is written, the earliest first. -/
def recorded {m : Type → Type} [Monad m] (fs : FileSystem m) : FileSystem (StateT (List (Path × List UInt8)) m) :=
  let same : FileSystem (StateT (List (Path × List UInt8)) m) := fs.lift
  { same with
    write := fun p bytes => do
      same.write p bytes
      modify fun written => written ++ [(p, bytes)] }

theorem save_recorded {m : Type → Type} [Monad m] [LawfulMonad m] (fs : FileSystem m) (path : String)
    (bytes : List UInt8) : fs.recorded.save path bytes =
      (fs.lift : FileSystem (StateT (List (Path × List UInt8)) m)).save path bytes >>= fun _ =>
        modify fun written => written ++ [(⟨path⟩, bytes)] := by
  simp only [save]
  cases Path.parent? ⟨path⟩ with
  | none => rfl
  | some parent =>
    dsimp only
    split
    case isTrue => rfl
    case isFalse =>
      rw [bind_assoc]
      rfl

variable {W : Type} (fs : FileSystem (StateM W)) {w w' : W} (written : List (Path × List UInt8))

theorem run_save_recorded {path : String} {bytes : List UInt8} (h : (fs.save path bytes).run.run w = (.ok (), w')) :
    ((fs.recorded.save path bytes).run.run written).run w = ((.ok (), written ++ [(⟨path⟩, bytes)]), w') := by
  have hsave := fs.save_beneath path bytes written
  unfold Beneath at hsave
  rw [save_recorded, run_bind_log, hsave, StateT.run_map, h]
  rfl

theorem run_saveTo_recorded {target : Option String} {bytes : List UInt8}
    (h : (fs.saveTo bytes target).run.run w = (.ok (), w')) :
    ((fs.recorded.saveTo bytes target).run.run written).run w =
      ((.ok (), written ++ (target.map fun path => (⟨path⟩, bytes)).toList), w') := by
  cases target with
  | none =>
    cases h
    simp only [saveTo, Option.map_none, Option.toList_none, List.append_nil]
    rfl
  | some path => exact fs.run_save_recorded written h

theorem run_saveAll_recorded {c : SheetConfig Float} {l : Layout Float} {targets : ExportTargets}
    (h : (fs.saveAll c l targets).run.run w = (.ok (), w')) :
    ((fs.recorded.saveAll c l targets).run.run written).run w = ((.ok (), written ++ c.exports l targets), w') := by
  obtain ⟨⟨⟩, w₁, hpdf, hsvg⟩ := exists_of_run_bind h
  rw [saveAll, run_bind_log, fs.run_saveTo_recorded written hpdf]
  dsimp only
  rw [fs.run_saveTo_recorded _ hsvg, SheetConfig.exports, List.append_assoc]

theorem run_makeFor_recorded {path : String} (h : (fs.makeFor path).run.run w = (.ok (), w')) :
    ((fs.recorded.makeFor path).run.run written).run w = ((.ok (), written), w') := by
  have hmake := fs.makeFor_beneath path written
  unfold Beneath at hmake
  show (((fs.lift : FileSystem (StateT (List (Path × List UInt8)) (StateM W))).makeFor path).run.run written).run w = _
  rw [hmake, StateT.run_map, h]
  rfl

end FileSystem

namespace Settings

variable (s : Settings) {W : Type} (fs : FileSystem (StateM W)) {names names' : JobNames} {job : Job} {w w' : W}

/-- If a page is written, the record is that of its files. -/
theorem run_writePage_recorded {drawing : DrawingSpec Float} {layout : Layout Float} {pdf : String}
    {svg : Option String} (h : (s.writePage fs drawing layout pdf svg).run.run w = (.ok (), w')) :
    ((s.writePage fs.recorded drawing layout pdf svg).run.run []).run w =
      ((.ok (), s.sheet.exports layout ⟨some pdf, svg⟩), w') := by
  obtain ⟨⟨⟩, w₁, hmade, hwritten⟩ := exists_of_run_bind h
  rw [writePage, run_bind_log, ExceptT.run_adapt, StateT.run_map, StateT.run_map,
    fs.run_makeFor_recorded [] (run_of_run_adapt hmade)]
  cases hrenderer : s.renderer with
  | null =>
    rw [hrenderer] at hwritten
    cases hwritten
  | sheet =>
    cases hfault : drawing.fault? s.policy with
    | some fault =>
      rw [hrenderer, hfault] at hwritten
      cases hwritten
    | none =>
      rw [hrenderer, hfault] at hwritten
      have hsaved := fs.run_saveAll_recorded [] (run_of_run_adapt hwritten)
      show ((ExceptT.adapt _ (fs.recorded.saveAll s.sheet layout ⟨some pdf, svg⟩)).run.run []).run w₁ = _
      rw [ExceptT.run_adapt, StateT.run_map, StateT.run_map, hsaved]
      rfl

/-- If a run succeeds, the same run with a record does so too, and the record is that of the files of its page. -/
theorem run_runJob_recorded (hnames : names.Distinct) {report : JobReport}
    (h : (s.runJob fs names job).run.run w = (.ok report, w')) :
    ((s.runJob fs.recorded names job).run.run []).run w =
      ((.ok report, s.sheet.exports (s.layout names job.drawing) ⟨some report.pdf, report.svg⟩), w') := by
  rcases s.early_or fs job with ⟨e, -, hrun⟩ | ⟨pdf, svg, hpdf, hsvg, hkernel⟩
  · rw [hrun] at h
    cases h
  · have hbuilds : Store.EndAlike (.empty s.store names.solid) (.empty s.store names.solid)
        ((Store.kernel : Kernel Float (Bench (StateM W))).build job.solid)
        ((Store.kernel : Kernel Float (Bench (StateT (List (Path × List UInt8)) (StateM W)))).build job.solid) :=
      Store.build_renamed job.solid hnames.solid hnames.solid rfl
    obtain ⟨built, built', t, t', hbuild, hbuild', hresult⟩ := hbuilds
    rw [s.run_runJob_of_build fs hnames.view hpdf hsvg hkernel hbuild] at h
    rw [s.run_runJob_of_build fs.recorded hnames.view hpdf hsvg hkernel hbuild', hresult]
    cases built with
    | error e => cases h
    | ok solid =>
      rw [Except.map, liftAs_ok_bind] at h ⊢
      rw [StateT.run_map] at h
      rcases hpage : (s.writePage fs job.drawing (s.layout names job.drawing) pdf svg).run.run w with ⟨e | _, w₁⟩
      · rw [hpage] at h
        cases h
      · rw [hpage] at h
        cases h
        rw [StateT.run_map, StateT.run_map, s.run_writePage_recorded fs hpage]
        rfl

/-- Finished runs on the same drawing export the same documents, whatever their solids, their names and their files are.
And of one job each comes to the same end with any names. -/
theorem exports_renamed (hnames : names.Distinct) (hnames' : names'.Distinct) :
    (∀ {W W' : Type} (fs : FileSystem (StateM W)) (fs' : FileSystem (StateM W')) (job job' : Job)
        (report report' : JobReport) (w w₁ : W) (w' w₁' : W'), job'.drawing = job.drawing →
      (s.runJob fs names job).run.run w = (.ok report, w₁) →
      (s.runJob fs' names' job').run.run w' = (.ok report', w₁') →
      ∃ layout,
        ((s.runJob fs.recorded names job).run.run []).run w =
          ((.ok report, s.sheet.exports layout ⟨some report.pdf, report.svg⟩), w₁) ∧
        ((s.runJob fs'.recorded names' job').run.run []).run w' =
          ((.ok report', s.sheet.exports layout ⟨some report'.pdf, report'.svg⟩), w₁')) ∧
      ∀ {m : Type → Type} [Monad m] [LawfulMonad m] (fs : FileSystem m) (job : Job),
        s.runJob fs names' job = s.runJob fs names job := by
  constructor
  case left =>
    intro W W' fs fs' job job' report report' w w₁ w' w₁' hdrawing h h'
    refine ⟨s.layout names job.drawing, s.run_runJob_recorded fs hnames h, ?_⟩
    have hrecorded := s.run_runJob_recorded fs' hnames' h'
    rw [hdrawing, ← s.sheet.exports_unnamed, s.unnamed_layout names names', s.sheet.exports_unnamed] at hrecorded
    exact hrecorded
  case right => exact fun fs job => s.runJob_renamed fs hnames hnames' job

end Settings

/-- Supplies that begin at number `k` of those given. -/
def JobNames.later (names : JobNames) (k : Nat) : JobNames :=
  ⟨fun n => names.solid (n + k),
    ⟨fun n => names.sheet.page (n + k), fun n => names.sheet.body (n + k), fun n => names.sheet.view (n + k)⟩⟩

theorem JobNames.Distinct.later {names : JobNames} (h : names.Distinct) (k : Nat) : (names.later k).Distinct where
  solid := h.solid.comp fun _ _ => Nat.add_right_cancel
  page := h.page.comp fun _ _ => Nat.add_right_cancel
  body := h.body.comp fun _ _ => Nat.add_right_cancel
  view := h.view.comp fun _ _ => Nat.add_right_cancel

theorem JobNames.numbered_distinct : numbered.Distinct where
  solid _ _ h := Sheets.append_toString_injective "solid" (congrArg SolidId.name h)
  page := Sheets.numbered_page_injective
  body _ _ h := Sheets.append_toString_injective "body" (congrArg BodyId.name h)
  view := Sheets.numbered_view_injective

/-- A block with the drawing of a disc. -/
def blockJob : Job := { discJob with solid := ⟨"block", [.baseBox ⟨4, 2, 1, true, false⟩]⟩ }

theorem Settings.exports_renamed_discJob :
    let fs : FileSystem (StateM Disk) := Disk.fileSystem "/home"
    JobNames.numbered.Distinct ∧ (JobNames.numbered.later 1).Distinct ∧ blockJob.drawing = discJob.drawing ∧
      ∃ report report' d d' layout,
        (runJob {} fs .numbered discJob).run.run emptyHome = (.ok report, d) ∧
        (runJob {} fs (JobNames.numbered.later 1) blockJob).run.run emptyHome = (.ok report', d') ∧
        ((runJob {} fs.recorded .numbered discJob).run.run []).run emptyHome =
          ((.ok report, SheetConfig.a4.exports layout ⟨some report.pdf, report.svg⟩), d) ∧
        ((runJob {} fs.recorded (JobNames.numbered.later 1) blockJob).run.run []).run emptyHome =
          ((.ok report', SheetConfig.a4.exports layout ⟨some report'.pdf, report'.svg⟩), d') := by
  intro fs
  have hlater := JobNames.numbered_distinct.later 1
  have hdisc : (runOn {} .numbered "/home" discJob emptyHome).1.isOk = true := by decide +kernel
  have hblock : (runOn {} (JobNames.numbered.later 1) "/home" blockJob emptyHome).1.isOk = true := by decide +kernel
  rcases hdone : runOn {} .numbered "/home" discJob emptyHome with ⟨e | report, d⟩
  · rw [hdone] at hdisc
    cases hdisc
  rcases hdone' : runOn {} (JobNames.numbered.later 1) "/home" blockJob emptyHome with ⟨e | report', d'⟩
  · rw [hdone'] at hblock
    cases hblock
  obtain ⟨layout, hrecord, hrecord'⟩ := (exports_renamed {} JobNames.numbered_distinct hlater).1 fs fs discJob blockJob
    report report' _ d _ d' rfl hdone hdone'
  exact ⟨JobNames.numbered_distinct, hlater, rfl, report, report', d, d', layout, hdone, hdone', hrecord, hrecord'⟩

end SolidDrawing
