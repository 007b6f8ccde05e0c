import SolidDrawing.Job.Run
import SolidDrawing.Proofs.Watching

/-!
# The course of sessions

Whatever is done in a session and however the session ends, the last thing that happens to what it owns is that it is
shut down, once (`Session.leaves_conduct`). What is done may depend on all answers so far (`Work`). A job nests two
sessions: `Job.Course` says what happens in it, whichever step it comes to its end with. The main statement is
`Session.shutdown_once`.
-/

namespace SolidDrawing

/-! ### Sessions -/

namespace Session

/-- How a session comes to its end. -/
inductive Ending where
  /-- Its owner closes it. -/
  | closed
  /-- Its owner lets go of it. -/
  | dropped
  /-- It was opened around the work. -/
  | scoped

section

variable {ε α : Type} {m : Type → Type} [Monad m]

/-- Work in a session, which `refusal` may refuse to open. -/
def conduct (ending : Ending) (refusal : Option ε) (shutdown : m Unit) (work : ExceptT ε m α) : ExceptT ε m α :=
  match ending, refusal with
  | .scoped, _ => within refusal shutdown work
  | _, some e => throw e
  | .closed, none => ExceptT.mk do
    let result ← work.run
    opened.close shutdown
    return result
  | .dropped, none => ExceptT.mk do
    let result ← work.run
    opened.drop shutdown
    return result

theorem conduct_some (ending : Ending) (e : ε) (shutdown : m Unit) (work : ExceptT ε m α) :
    conduct ending (some e) shutdown work = throw e := by
  cases ending <;> rfl

variable [LawfulMonad m]

@[simp] theorem drop_opened (shutdown : m Unit) : opened.drop shutdown = shutdown := by
  simp [drop, teardown, opened]

/-- What was closed is not shut down again when its owner lets go of it. -/
@[simp] theorem close_opened (shutdown : m Unit) : opened.close shutdown = shutdown := by
  simp [close, drop, teardown, opened]

theorem run_conduct_none (ending : Ending) (shutdown : m Unit) (work : ExceptT ε m α) :
    (conduct ending none shutdown work).run = do
      let result ← work.run
      shutdown
      return result := by
  cases ending <;> simp [conduct, within]

variable {ω : Type} {work : ExceptT ε m α} {work' : ExceptT ε (StateT (List ω) m) α}
  {post : List ω → Except ε α → Prop} {shutdown : m Unit} {shutdown' : StateT (List ω) m Unit} {last : ω}

/-- After the work, what is shut down is the last thing to happen. -/
theorem leaves_conduct (ending : Ending) (h : Leaves work.run work'.run post)
    (hshutdown : Leaves shutdown shutdown' fun evs _ => evs = [last]) :
    Leaves (conduct ending none shutdown work).run (conduct ending none shutdown' work').run
      fun evs result => ∃ worked, evs = worked ++ [last] ∧ post worked result := by
  rw [run_conduct_none, run_conduct_none]
  refine h.bind fun worked result hworked => hshutdown.bind ?_
  rintro _ _ rfl
  exact .pure ⟨worked, by simp, hworked⟩

theorem leaves_refused (e : ε) (shutdown : m Unit) (shutdown' : StateT (List ω) m Unit) (work : ExceptT ε m α)
    (work' : ExceptT ε (StateT (List ω) m) α) :
    Leaves (within (some e) shutdown work).run (within (some e) shutdown' work').run
      fun evs result => evs = [] ∧ result = .error e := .pure ⟨rfl, rfl⟩

end

end Session

/-! ### Work in sessions -/

/-- Work that takes steps one after the other. Which one is next may depend on all answers so far. -/
inductive Work (Step : Type → Type) (α : Type) : Type 1
  | done (a : α)
  | step {β : Type} (s : Step β) (next : β → Work Step α)

/-- Does the work, each step in its turn. -/
def Work.run {Step : Type → Type} {α : Type} {m : Type → Type} [Monad m] (take : ∀ β, Step β → m β) :
    Work Step α → m α
  | done a => pure a
  | step s next => take _ s >>= fun b => (next b).run take

theorem Work.leaves_run {Step : Type → Type} {ω α : Type} {m : Type → Type} [Monad m] [LawfulMonad m]
    {take : ∀ β, Step β → m β} {take' : ∀ β, Step β → StateT (List ω) m β} {p : ω → Prop}
    (h : ∀ β (s : Step β), Leaves (take β s) (take' β s) fun evs _ => ∀ ev ∈ evs, p ev) (work : Work Step α) :
    Leaves (work.run take) (work.run take') fun evs _ => ∀ ev ∈ evs, p ev := by
  induction work with
  | done a => exact .pure_all
  | step s next ih =>
    refine (h _ s).bind fun evs b hevs => (ih b).imp fun evs' _ hevs' => ?_
    rw [List.forall_mem_append]
    exact ⟨hevs, hevs'⟩

section

variable {K : Type} [Scalar K] {m : Type → Type} [Monad m]

/-- A step of a session with a kernel, by what it answers. -/
inductive KernelStep (K : Type) : Type → Type
  | build (spec : SolidSpec K) : KernelStep K (Except (BuildError K) SolidRef)
  | measure (solid : SolidRef) : KernelStep K (Except KernelError (MassProperties K))
  | bounds (solid : SolidRef) : KernelStep K (Except KernelError (Box K))
  /-- A call to the kernel itself. -/
  | make (call : KernelCall K) : KernelStep K (Except KernelError SolidRef)

/-- A step of a session with a renderer, by what it answers. -/
inductive RenderStep (K : Type) : Type → Type
  | project (policy : Policy) (solid : SolidRef) (spec : DrawingSpec K) (targets : ExportTargets) :
    RenderStep K (Except ProjectError Document)
  /-- A call to the renderer itself, answered by the event that it leaves. -/
  | make (call : RenderCall K) (h : call ≠ .shutdown) : RenderStep K (RenderEvent K)

/-- Takes a step. -/
def Kernel.take (k : Kernel K m) : ∀ β, KernelStep K β → m β
  | _, .build spec => (k.build spec).run
  | _, .measure solid => (k.measure solid).run
  | _, .bounds solid => (k.bounds solid).run
  | _, .make call => (k.make call).run

/-- Takes a step. -/
def Renderer.take (r : Renderer K m) : ∀ β, RenderStep K β → m β
  | _, .project policy solid spec targets => (r.project policy solid spec targets).run
  | _, .make call _ => r.make call

/-- Work in a session with the kernel. -/
def Kernel.conduct {ε α : Type} (k : Kernel K m) (ending : Session.Ending) (ofKernel : KernelError → ε)
    (work : Work (KernelStep K) (Except ε α)) : ExceptT ε m α :=
  Session.conduct ending (k.refusal?.map ofKernel) k.shutdown (ExceptT.mk (work.run k.take))

/-- Work in a session with the renderer. -/
def Renderer.conduct {ε α : Type} (r : Renderer K m) (ending : Session.Ending) (ofRenderer : RenderError → ε)
    (work : Work (RenderStep K) (Except ε α)) : ExceptT ε m α :=
  Session.conduct ending (r.refusal?.map ofRenderer) r.shutdown (ExceptT.mk (work.run r.take))

variable [LawfulMonad m]

theorem Kernel.leaves_take (k : Kernel K m) (β : Type) (step : KernelStep K β) :
    Leaves (k.take β step) (k.watched.take β step) fun evs _ => ∀ ev ∈ evs, ev.AsksKernel := by
  cases step with
  | build spec => exact (k.leaves_build spec).imp fun _ _ => And.left
  | measure solid =>
    refine (k.leaves_measure solid).imp ?_
    rintro _ _ rfl
    simp [WorkEvent.AsksKernel]
  | bounds solid =>
    refine (k.leaves_bounds solid).imp ?_
    rintro _ _ rfl
    simp [WorkEvent.AsksKernel]
  | make call =>
    refine (k.leaves_make call).imp ?_
    rintro _ _ rfl
    simp [WorkEvent.AsksKernel]

theorem Renderer.leaves_take (r : Renderer K m) (β : Type) (step : RenderStep K β) :
    Leaves (r.take β step) (r.watched.take β step) fun evs _ => ∀ ev ∈ evs, ev.AsksRenderer := by
  cases step with
  | project policy solid spec targets => exact r.leaves_project policy solid spec targets
  | make call h =>
    refine (r.leaves_make call).imp ?_
    rintro _ ev ⟨rfl, rfl⟩
    have hev : ev ≠ .shutdown := fun hev => h (by rw [hev]; rfl)
    simpa [WorkEvent.AsksRenderer] using hev

namespace Kernel

variable {ε α : Type} (k : Kernel K m)

omit [Scalar K] [Monad m] [LawfulMonad m] in
private theorem refusal?_eq_none (h : k.available = true) : k.refusal? = none := by
  rw [refusal?, h]
  rfl

theorem run_conduct (h : k.available = true) (ending : Session.Ending) (ofKernel : KernelError → ε)
    (work : Work (KernelStep K) (Except ε α)) : (k.conduct ending ofKernel work).run = do
      let result ← work.run k.take
      k.shutdown
      return result := by
  rw [conduct, k.refusal?_eq_none h, Option.map_none, Session.run_conduct_none]
  rfl

theorem leaves_conduct (h : k.available = true) (ending : Session.Ending) (ofKernel : KernelError → ε)
    (work : Work (KernelStep K) (Except ε α)) :
    Leaves (k.conduct ending ofKernel work).run (k.watched.conduct ending ofKernel work).run fun evs _ =>
      WorkEvent.IsKernelSession evs := by
  rw [conduct, conduct, k.refusal?_eq_none h, k.watched.refusal?_eq_none h, Option.map_none]
  exact Session.leaves_conduct ending (work.leaves_run k.leaves_take) k.leaves_shutdown

omit [LawfulMonad m] in
theorem conduct_eq_throw (h : k.available = false) (ending : Session.Ending) (ofKernel : KernelError → ε)
    (work : Work (KernelStep K) (Except ε α)) : k.conduct ending ofKernel work =
      throw (ofKernel (.notAvailable ("Kernel '" ++ k.name ++ "' is not available"))) := by
  rw [conduct, refusal?, h]
  exact Session.conduct_some ..

end Kernel

namespace Renderer

variable {ε α : Type} (r : Renderer K m)

omit [Scalar K] [Monad m] [LawfulMonad m] in
private theorem refusal?_eq_none (h : r.available = true) : r.refusal? = none := by
  rw [refusal?, h]
  rfl

theorem run_conduct (h : r.available = true) (ending : Session.Ending) (ofRenderer : RenderError → ε)
    (work : Work (RenderStep K) (Except ε α)) : (r.conduct ending ofRenderer work).run = do
      let result ← work.run r.take
      r.shutdown
      return result := by
  rw [conduct, r.refusal?_eq_none h, Option.map_none, Session.run_conduct_none]
  rfl

theorem leaves_conduct (h : r.available = true) (ending : Session.Ending) (ofRenderer : RenderError → ε)
    (work : Work (RenderStep K) (Except ε α)) :
    Leaves (r.conduct ending ofRenderer work).run (r.watched.conduct ending ofRenderer work).run fun evs _ =>
      WorkEvent.IsRendererSession evs := by
  rw [conduct, conduct, r.refusal?_eq_none h, r.watched.refusal?_eq_none h, Option.map_none]
  exact Session.leaves_conduct ending (work.leaves_run r.leaves_take) r.leaves_shutdown

omit [LawfulMonad m] in
theorem conduct_eq_throw (h : r.available = false) (ending : Session.Ending) (ofRenderer : RenderError → ε)
    (work : Work (RenderStep K) (Except ε α)) : r.conduct ending ofRenderer work =
      throw (ofRenderer (.notAvailable ("Renderer '" ++ r.name ++ "' is not available"))) := by
  rw [conduct, refusal?, h]
  exact Session.conduct_some ..

end Renderer

end

/-! ### Jobs -/

/-- What happens to the renderer of a job once the solid is there, up to the result. -/
inductive Renderer.PageCourse {m : Type → Type} (r : Renderer Float m) :
    List (WorkEvent Float) → Except JobError Unit → Prop
  /-- There is no directory for the page. -/
  | noDirectory (reason : String) : PageCourse r [] (.error (.io reason))
  /-- No session with the renderer can be opened. -/
  | noRenderer {e : RenderError} (h : r.refusal? = some e) : PageCourse r [] (.error (.renderer e))
  /-- The page is not finished. -/
  | noPage {drawing : List (WorkEvent Float)} (h : r.refusal? = none) (hdrawing : WorkEvent.IsRendererSession drawing)
    (e : ProjectError) : PageCourse r drawing (.error (.project e))
  | finished {drawing : List (WorkEvent Float)} (h : r.refusal? = none)
    (hdrawing : WorkEvent.IsRendererSession drawing) : PageCourse r drawing (.ok ())

/-- What happens to the kernel and to the renderer of a job, in order, up to the result. -/
inductive Job.Course {m : Type → Type} (r : Renderer Float m) (job : Job) :
    List (WorkEvent Float) → Except JobError JobReport → Prop
  /-- There is no session with a kernel. -/
  | noKernel (e : JobError) : Course r job [] (.error e)
  /-- The solid is not built. -/
  | noSolid {building : List (WorkEvent Float)} (hbuilding : WorkEvent.IsKernelSession building)
    (e : BuildError Float) : Course r job building (.error (.build e))
  | built {building survey paged : List (WorkEvent Float)} {result : Except JobError Unit}
    (hbuilding : job.solid.BuiltIn building) (hsurvey : ∀ ev ∈ survey, ev.AsksKernel)
    (hpaged : r.PageCourse paged result) (report : JobReport) :
    Course r job (building ++ survey ++ paged ++ [.kernel .shutdown]) (result.map fun _ => report)

section

variable {m : Type → Type} [Monad m] [LawfulMonad m]

theorem Kernel.leaves_survey {K : Type} (k : Kernel K m) (solid : SolidRef) :
    Leaves (k.survey solid) (k.watched.survey solid) fun evs _ => ∀ ev ∈ evs, ev.AsksKernel := by
  refine (k.leaves_measure solid).bind ?_
  rintro _ answer rfl
  cases answer with
  | ok mass => exact .pure (by simp [WorkEvent.AsksKernel])
  | error e =>
    refine (k.leaves_bounds solid).bind ?_
    rintro _ _ rfl
    exact .pure (by simp [WorkEvent.AsksKernel])

private theorem Renderer.leaves_within (r : Renderer Float m) {work : ExceptT JobError m Unit}
    {work' : ExceptT JobError (StateT (List (WorkEvent Float)) m) Unit}
    (h : Leaves work.run work'.run fun evs result =>
      (∀ ev ∈ evs, ev.AsksRenderer) ∧ ∀ e, result = .error e → ∃ e', e = .project e') :
    Leaves (r.within .renderer work).run (r.watched.within .renderer work').run r.PageCourse := by
  have hrefusal : r.watched.refusal? = r.refusal? := rfl
  rw [within, within, hrefusal]
  cases hr : r.refusal? with
  | some e => exact .pure (.noRenderer hr)
  | none =>
    refine (Session.leaves_conduct .scoped h r.leaves_shutdown).imp ?_
    rintro _ result ⟨drawing, rfl, hdrawing, hresult⟩
    cases result with
    | ok _ => exact .finished hr ⟨drawing, rfl, hdrawing⟩
    | error e =>
      obtain ⟨e', rfl⟩ := hresult e rfl
      exact .noPage hr ⟨drawing, rfl, hdrawing⟩ e'

/-- The project step answers nothing but whether it came to its end. -/
private theorem Renderer.leaves_page (r : Renderer Float m) (policy : Policy) (solid : SolidRef)
    (spec : DrawingSpec Float) (targets : ExportTargets) :
    Leaves (r.within JobError.renderer do
        let _ ← (r.project policy solid spec targets).adapt JobError.project).run
      (r.watched.within JobError.renderer do
        let _ ← (r.watched.project policy solid spec targets).adapt JobError.project).run r.PageCourse := by
  refine r.leaves_within (.bind_except ((r.leaves_project policy solid spec targets).adapt _) ?_ ?_)
  · rintro evs e ⟨result, hevs, hresult⟩
    refine ⟨hevs, fun e' he' => ?_⟩
    cases result with
    | ok doc => cases hresult
    | error e'' =>
      cases hresult
      cases he'
      exact ⟨e'', rfl⟩
  · rintro evs doc ⟨result, hevs, -⟩
    exact .pure ⟨by simpa using hevs, nofun⟩

/-- The directory of the page is made before the page is. -/
private theorem FileSystem.leaves_page (fs : FileSystem m) (directory : Option Path) {r : Renderer Float m}
    {page : ExceptT JobError m Unit} {page' : ExceptT JobError (StateT (List (WorkEvent Float)) m) Unit}
    (h : Leaves page.run page'.run r.PageCourse) :
    Leaves (match directory with
      | some p => do
        (fs.makeDirectories p).adapt JobError.io
        page
      | none => page).run
      (match directory with
      | some p => do
        ((fs.lift : FileSystem (StateT (List (WorkEvent Float)) m)).makeDirectories p).adapt JobError.io
        page'
      | none => page').run r.PageCourse := by
  cases directory with
  | none => exact h
  | some p =>
    refine .bind_except (.adapt (.lift _) JobError.io) ?_ ?_
    · rintro _ e ⟨result, rfl, hresult⟩
      cases result with
      | ok _ => cases hresult
      | error reason =>
        cases hresult
        exact .noDirectory reason
    · rintro _ _ ⟨result, rfl, -⟩
      exact h

/-- What is done in the session with the kernel: the solid is not built, or it is built and measured before the page is
made. -/
private theorem Kernel.leaves_work (k : Kernel Float m) (spec : SolidSpec Float)
    {page : SolidRef → ExceptT JobError m Unit}
    {page' : SolidRef → ExceptT JobError (StateT (List (WorkEvent Float)) m) Unit}
    {post : List (WorkEvent Float) → Except JobError Unit → Prop}
    (h : ∀ solid, Leaves (page solid).run (page' solid).run post) :
    Leaves (do
        let solid ← (k.build spec).adapt JobError.build
        k.survey solid
        page solid : ExceptT JobError m Unit).run
      (do
        let solid ← (k.watched.build spec).adapt JobError.build
        k.watched.survey solid
        page' solid : ExceptT JobError (StateT (List (WorkEvent Float)) m) Unit).run
      fun evs result => (∃ e, result = .error (.build e) ∧ ∀ ev ∈ evs, ev.AsksKernel) ∨
        ∃ building survey paged, evs = building ++ survey ++ paged ∧ spec.BuiltIn building ∧
          (∀ ev ∈ survey, ev.AsksKernel) ∧ post paged result := by
  refine .bind_except ((k.leaves_build spec).adapt JobError.build) ?_ ?_
  · rintro building e ⟨result, ⟨hasks, -⟩, hresult⟩
    cases result with
    | ok solid => cases hresult
    | error e' =>
      cases hresult
      exact .inl ⟨e', rfl, hasks⟩
  · rintro building solid ⟨result, ⟨-, hbuilt⟩, hresult⟩
    cases result with
    | error e => cases hresult
    | ok solid' =>
      obtain rfl : solid = solid' := Except.ok.inj hresult
      refine .bind_except (.lift_except (k.leaves_survey solid)) (by rintro _ _ ⟨_, _, h⟩; cases h) ?_
      rintro survey _ ⟨_, hsurvey, -⟩
      refine (h solid).imp fun paged result hpaged => .inr ⟨building, survey, paged, ?_, hbuilt _ rfl, hsurvey, hpaged⟩
      rw [List.append_assoc]

private theorem Leaves.liftAs {ω ε ε' α : Type} (f : ε → ε') (r : Except ε α) :
    Leaves (liftAs f r : ExceptT ε' m α).run (liftAs f r : ExceptT ε' (StateT (List ω) m) α).run
      fun evs _ => evs = [] := .pure rfl

theorem liftAs_ok_bind {ε ε' α β : Type} (f : ε → ε') (a : α) (g : α → ExceptT ε' m β) :
    liftAs f (.ok a) >>= g = g a := pure_bind a g

theorem liftAs_error_bind {ε ε' α β : Type} (f : ε → ε') (e : ε) (g : α → ExceptT ε' m β) :
    liftAs f (.error e) >>= g = throw (f e) := pure_bind (Except.error (f e)) (ExceptT.bindCont g)

theorem Job.leaves_run (fs : FileSystem m) (kernel : Except SettingsError (Kernel Float m)) (r : Renderer Float m)
    (policy : Policy) (job : Job) :
    Leaves (job.run fs kernel r policy).run (job.run fs.lift (kernel.map Kernel.watched) r.watched policy).run
      (job.Course r) := by
  rw [run, run]
  refine .bind_except (.liftAs _ _) (by rintro _ e rfl; exact .noKernel e) ?_
  rintro _ pdf rfl
  refine .bind_except (.liftAs _ _) (by rintro _ e rfl; exact .noKernel e) ?_
  rintro _ svg rfl
  cases kernel with
  | error e =>
    rw [Except.map, liftAs_error_bind, liftAs_error_bind]
    exact .pure (.noKernel _)
  | ok k =>
    rw [Except.map, liftAs_ok_bind, liftAs_ok_bind]
    have hwork := k.leaves_work job.solid fun solid =>
      fs.leaves_page (Path.parent? ⟨pdf⟩) (r.leaves_page policy solid job.drawing ⟨some pdf, svg⟩)
    have hrefusal : k.watched.refusal? = k.refusal? := rfl
    rw [Kernel.within, Kernel.within, hrefusal]
    cases hk : k.refusal? with
    | some e =>
      refine .bind_except (Session.leaves_refused ..) ?_ ?_
      · rintro _ _ ⟨rfl, -⟩
        exact .noKernel _
      · rintro _ _ ⟨-, h⟩
        cases h
    | none =>
      refine .bind_except (Session.leaves_conduct .scoped hwork k.leaves_shutdown) ?_ ?_
      · rintro _ e ⟨evs, rfl, h⟩
        rcases h with ⟨e', he, hevs⟩ | ⟨building, survey, paged, rfl, hbuilding, hsurvey, hpaged⟩
        · cases he
          exact .noSolid ⟨evs, rfl, hevs⟩ e'
        · exact .built hbuilding hsurvey hpaged ⟨pdf, svg, job.solid, job.drawing⟩
      · rintro _ _ ⟨evs, rfl, h⟩
        rcases h with ⟨e', he, -⟩ | ⟨building, survey, paged, rfl, hbuilding, hsurvey, hpaged⟩
        · cases he
        · refine .pure ?_
          rw [List.append_nil]
          exact .built hbuilding hsurvey hpaged ⟨pdf, svg, job.solid, job.drawing⟩

end

/-! ### All sessions -/

/-- A session does the work it is there for, answers what the work answers, and then shuts down what it owns, once; a
session that cannot be opened does nothing. In a job the session with the renderer lies within the one with the kernel,
after the build. -/
theorem Session.shutdown_once :
    (∀ {K : Type} [Scalar K] {m : Type → Type} [Monad m] [LawfulMonad m] {ε α : Type} (k : Kernel K m)
      (ending : Session.Ending) (ofKernel : KernelError → ε) (work : Work (KernelStep K) (Except ε α)),
      (k.available = true →
        (k.conduct ending ofKernel work).run = (do
          let result ← work.run k.take
          k.shutdown
          return result) ∧
        Leaves (k.conduct ending ofKernel work).run (k.watched.conduct ending ofKernel work).run fun evs _ =>
          WorkEvent.IsKernelSession evs) ∧
      (k.available = false →
        k.conduct ending ofKernel work =
          throw (ofKernel (.notAvailable ("Kernel '" ++ k.name ++ "' is not available"))) ∧
        k.watched.conduct ending ofKernel work =
          throw (ofKernel (.notAvailable ("Kernel '" ++ k.name ++ "' is not available"))))) ∧
    (∀ {K : Type} [Scalar K] {m : Type → Type} [Monad m] [LawfulMonad m] {ε α : Type} (r : Renderer K m)
      (ending : Session.Ending) (ofRenderer : RenderError → ε) (work : Work (RenderStep K) (Except ε α)),
      (r.available = true →
        (r.conduct ending ofRenderer work).run = (do
          let result ← work.run r.take
          r.shutdown
          return result) ∧
        Leaves (r.conduct ending ofRenderer work).run (r.watched.conduct ending ofRenderer work).run fun evs _ =>
          WorkEvent.IsRendererSession evs) ∧
      (r.available = false →
        r.conduct ending ofRenderer work =
          throw (ofRenderer (.notAvailable ("Renderer '" ++ r.name ++ "' is not available"))) ∧
        r.watched.conduct ending ofRenderer work =
          throw (ofRenderer (.notAvailable ("Renderer '" ++ r.name ++ "' is not available"))))) ∧
    ∀ {m : Type → Type} [Monad m] [LawfulMonad m] (fs : FileSystem m) (kernel : Except SettingsError (Kernel Float m))
      (r : Renderer Float m) (policy : Policy) (job : Job),
      Leaves (job.run fs kernel r policy).run (job.run fs.lift (kernel.map Kernel.watched) r.watched policy).run
        (job.Course r) := by
  refine ⟨fun k ending ofKernel work => ⟨fun h => ?_, fun h => ?_⟩,
    fun r ending ofRenderer work => ⟨fun h => ?_, fun h => ?_⟩, Job.leaves_run⟩
  · exact ⟨k.run_conduct h ending ofKernel work, k.leaves_conduct h ending ofKernel work⟩
  · exact ⟨k.conduct_eq_throw h ending ofKernel work, k.watched.conduct_eq_throw h ending ofKernel work⟩
  · exact ⟨r.run_conduct h ending ofRenderer work, r.leaves_conduct h ending ofRenderer work⟩
  · exact ⟨r.conduct_eq_throw h ending ofRenderer work, r.watched.conduct_eq_throw h ending ofRenderer work⟩

/-- Makes a box. -/
def boxWork : Work (KernelStep Float) (Except KernelError SolidRef) :=
  .step (.make (.createBox ⟨1, 1, 1⟩ .all)) .done

/-- Makes a page. -/
def pageWork : Work (RenderStep Float) (Except RenderError Unit) :=
  .step (.make (.createPage "part" "a4") nofun) fun _ => .done (.ok ())

theorem Session.shutdown_once_boxWork :
    (((Store.kernel : Kernel Float (StateM (Store Float))).conduct .dropped id boxWork).run.run
      (.empty .default JobNames.numbered.solid)).2.count = 0 ∧
    (Kernel.absent : Kernel Float (StateM (Store Float))).conduct .scoped id boxWork =
      throw (.notAvailable "Kernel 'null' is not available") ∧
    (((Sheets.renderer (Disk.fileSystem "out" : FileSystem (StateM Disk)).lift :
      Renderer Float (StateT (Sheets Float) (StateM Disk))).conduct .closed id pageWork).run.run
      (.empty .a4 .numbered) |>.run ⟨[], []⟩).1.2.pageCount = 0 ∧
    (Renderer.absent : Renderer Float (StateM (Sheets Float))).conduct .scoped id pageWork =
      throw (.notAvailable "Renderer 'null' is not available") := by
  obtain ⟨hkernel, hrenderer, -⟩ := Session.shutdown_once
  obtain ⟨hopened, -⟩ := hkernel (Store.kernel : Kernel Float (StateM (Store Float))) .dropped id boxWork
  obtain ⟨-, hrefused⟩ := hkernel (Kernel.absent : Kernel Float (StateM (Store Float))) .scoped id boxWork
  obtain ⟨hopened', -⟩ := hrenderer (Sheets.renderer (Disk.fileSystem "out" : FileSystem (StateM Disk)).lift :
    Renderer Float (StateT (Sheets Float) (StateM Disk))) .closed id pageWork
  obtain ⟨-, hrefused'⟩ := hrenderer (Renderer.absent : Renderer Float (StateM (Sheets Float))) .scoped id pageWork
  refine ⟨?_, (hrefused rfl).1, ?_, (hrefused' rfl).1⟩
  · rw [(hopened rfl).1]
    rfl
  · rw [(hopened' rfl).1]
    rfl

end SolidDrawing
