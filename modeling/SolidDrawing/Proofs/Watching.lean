import Mathlib.Data.List.Forall2
import Mathlib.Tactic.Choose
import SolidDrawing.Drawing.Project
import SolidDrawing.Proofs.DrawingCalls
import SolidDrawing.Proofs.Script

/-!
# Work that is watched

The calls to a kernel and those to a renderer go into one log, so that they can be told apart by when they were made
(`Kernel.watched`, `Renderer.watched`). `Leaves` says of a program that it does the same whether it is watched or not,
and what events it leaves; it holds of a call, and of programs one after the other. Nothing is known about the monad
but that it is one.
-/

namespace SolidDrawing

/-- A call to the kernel or to the renderer. -/
inductive WorkEvent (K : Type) where
  | kernel (event : KernelEvent K)
  | renderer (event : RenderEvent K)

namespace WorkEvent

variable {K : Type}

/-- The kernel is asked for something. -/
def AsksKernel (ev : WorkEvent K) : Prop := ∃ event, ev = kernel event ∧ event ≠ .shutdown

/-- The renderer is asked for something. -/
def AsksRenderer (ev : WorkEvent K) : Prop := ∃ event, ev = renderer event ∧ event ≠ .shutdown

/-- The kernel is asked for things, and in the end it is shut down. -/
def IsKernelSession (evs : List (WorkEvent K)) : Prop :=
  ∃ asked, evs = asked ++ [kernel .shutdown] ∧ ∀ ev ∈ asked, ev.AsksKernel

/-- The renderer is asked for things, and in the end it is shut down. -/
def IsRendererSession (evs : List (WorkEvent K)) : Prop :=
  ∃ asked, evs = asked ++ [renderer .shutdown] ∧ ∀ ev ∈ asked, ev.AsksRenderer

/-- A call that makes a solid has made the step. -/
def Makes (ev : WorkEvent K) (step : BuildStep K) : Prop :=
  ∃ call r, ev = kernel (.made call (.ok r)) ∧ call.step = step

end WorkEvent

/-- The solid is built in the events: they are the calls of its plan, each of which has made a solid. -/
def SolidSpec.BuiltIn {K : Type} [Scalar K] (spec : SolidSpec K) (evs : List (WorkEvent K)) : Prop :=
  ∃ plan, Plan.ofSpec spec = .ok plan ∧ List.Forall₂ WorkEvent.Makes evs plan.steps

section

variable {K ω α : Type} {m : Type → Type} [Monad m]

/-- An action followed by an event that shows its result. -/
def note (event : α → ω) (action : m α) : StateT (List ω) m α := fun log => do
  let a ← action
  return (a, event a :: log)

/-- The kernel with all its calls in the log. -/
def Kernel.watched (k : Kernel K m) : Kernel K (StateT (List (WorkEvent K)) m) :=
  k.ofMake (fun call => ExceptT.mk (note (fun answer => .kernel (.made call answer)) (k.make call).run))
    (fun solid => ExceptT.mk (note (fun _ => .kernel (.measured solid)) (k.measure solid).run))
    (fun solid => ExceptT.mk (note (fun _ => .kernel (.bounded solid)) (k.bounds solid).run))
    (note (fun _ => .kernel .shutdown) k.shutdown)

/-- The renderer with all its calls in the log. -/
def Renderer.watched (r : Renderer K m) : Renderer K (StateT (List (WorkEvent K)) m) :=
  let noted {α : Type} (event : Except RenderError α → RenderEvent K) (action : ExceptT RenderError m α) :
      ExceptT RenderError (StateT (List (WorkEvent K)) m) α :=
    ExceptT.mk (note (fun answer => .renderer (event answer)) action.run)
  { name := r.name
    available := r.available
    createPage := fun title template => noted (.createPage title template) (r.createPage title template)
    addBody := fun page solid => noted (.addBody page solid) (r.addBody page solid)
    addView := fun page body view => noted (.addView page body view) (r.addView page body view)
    addDimension := fun page view d => noted (.addDimension page view d) (r.addDimension page view d)
    recompute := fun page => noted (.recompute page) (r.recompute page)
    exportPdf := fun page path => noted (.exportPdf page path) (r.exportPdf page path)
    exportSvg := fun page path => noted (.exportSvg page path) (r.exportSvg page path)
    shutdown := note (fun _ => .renderer .shutdown) r.shutdown }

/-- Watched or not, the action does the same. The watched one leaves events of which, together with the result, `post`
holds. -/
def Leaves (action : m α) (watched : StateT (List ω) m α) (post : List ω → α → Prop) : Prop :=
  ∃ run : m {p : List ω × α // post p.1 p.2},
    action = (fun p => p.1.2) <$> run ∧ ∀ log, watched.run log = (fun p => (p.1.2, p.1.1.reverse ++ log)) <$> run

end

namespace Leaves

variable {ω ε ε' α β : Type} {m : Type → Type} [Monad m] [LawfulMonad m]

/-! ### Programs one after the other -/

section

variable {x : m α} {x' : StateT (List ω) m α} {post post' : List ω → α → Prop}

theorem pure {a : α} (h : post [] a) : Leaves (pure a : m α) (pure a) post :=
  ⟨Pure.pure ⟨([], a), h⟩, by simp, by simp⟩

theorem note (event : α → ω) (action : m α) : Leaves action (note event action) fun evs a => evs = [event a] := by
  refine ⟨(fun a => ⟨([event a], a), rfl⟩) <$> action, by simp, fun log => ?_⟩
  simp [SolidDrawing.note, StateT.run]

theorem lift (action : m α) : Leaves action (StateT.lift action) fun (evs : List ω) _ => evs = [] :=
  ⟨(fun a => ⟨([], a), rfl⟩) <$> action, by simp, by simp⟩

theorem imp (h : Leaves x x' post) (himp : ∀ evs a, post evs a → post' evs a) : Leaves x x' post' := by
  obtain ⟨run, hx, hx'⟩ := h
  refine ⟨(fun p => ⟨p.1, himp _ _ p.2⟩) <$> run, by simp [hx], fun log => by simp [hx']⟩

theorem map (h : Leaves x x' post) (f : α → β) :
    Leaves (f <$> x) (f <$> x') fun evs b => ∃ a, post evs a ∧ b = f a := by
  obtain ⟨run, hx, hx'⟩ := h
  exact ⟨(fun p => ⟨(p.1.1, f p.1.2), p.1.2, p.2, rfl⟩) <$> run, by simp [hx], fun log => by simp [hx']⟩

theorem bind {f : α → m β} {f' : α → StateT (List ω) m β} {post' : List ω → β → Prop} (h : Leaves x x' post)
    (hf : ∀ evs a, post evs a → Leaves (f a) (f' a) fun evs' b => post' (evs ++ evs') b) :
    Leaves (x >>= f) (x' >>= f') post' := by
  obtain ⟨run, hx, hx'⟩ := h
  choose next hnext hnext' using hf
  refine ⟨run >>= fun p => (fun q => ⟨(p.1.1 ++ q.1.1, q.1.2), q.2⟩) <$> next _ _ p.2, ?_, fun log => ?_⟩
  · simp only [hx, bind_map_left, map_bind, Functor.map_map]
    exact bind_congr fun p => hnext _ _ p.2
  · simp only [StateT.run_bind, hx', bind_map_left, map_bind, Functor.map_map, List.reverse_append, List.append_assoc]
    exact bind_congr fun p => hnext' _ _ p.2 _

end

/-! ### Programs that can fail -/

section

variable {x : ExceptT ε m α} {x' : ExceptT ε (StateT (List ω) m) α} {post : List ω → Except ε α → Prop}

theorem bind_except {f : α → ExceptT ε m β} {f' : α → ExceptT ε (StateT (List ω) m) β}
    {post' : List ω → Except ε β → Prop} (h : Leaves x.run x'.run post)
    (herror : ∀ evs e, post evs (.error e) → post' evs (.error e))
    (hok : ∀ evs a, post evs (.ok a) → Leaves (f a).run (f' a).run fun evs' b => post' (evs ++ evs') b) :
    Leaves (x >>= f).run (x' >>= f').run post' := by
  rw [ExceptT.run_bind, ExceptT.run_bind]
  refine h.bind fun evs result hresult => ?_
  cases result with
  | error e => exact .pure (by simpa using herror evs e hresult)
  | ok a => exact hok evs a hresult

theorem map_except (h : Leaves x.run x'.run post) (f : α → β) :
    Leaves (f <$> x).run (f <$> x').run fun evs result => ∃ r, post evs r ∧ result = r.map f := by
  rw [ExceptT.run_map, ExceptT.run_map]
  exact h.map (Except.map f)

theorem adapt (h : Leaves x.run x'.run post) (f : ε → ε') :
    Leaves (x.adapt f).run (x'.adapt f).run fun evs result => ∃ r, post evs r ∧ result = r.mapError f := by
  rw [ExceptT.run_adapt, ExceptT.run_adapt]
  exact h.map (Except.mapError f)

theorem lift_except {action : m α} {watched : StateT (List ω) m α} {post : List ω → α → Prop}
    (h : Leaves action watched post) : Leaves (ExceptT.lift action : ExceptT ε m α).run (ExceptT.lift watched).run
      fun evs result => ∃ a, post evs a ∧ result = .ok a := by
  rw [ExceptT.run_lift, ExceptT.run_lift]
  exact h.map Except.ok

end

/-! ### Events of one kind -/

section

variable {p : ω → Prop} {x : ExceptT ε m α} {x' : ExceptT ε (StateT (List ω) m) α}

theorem pure_all {a : α} : Leaves (Pure.pure a : m α) (Pure.pure a) fun evs _ => ∀ ev ∈ evs, p ev :=
  .pure (by simp)

theorem bind_all {f : α → ExceptT ε m β} {f' : α → ExceptT ε (StateT (List ω) m) β}
    (h : Leaves x.run x'.run fun evs _ => ∀ ev ∈ evs, p ev)
    (hf : ∀ a, Leaves (f a).run (f' a).run fun evs _ => ∀ ev ∈ evs, p ev) :
    Leaves (x >>= f).run (x' >>= f').run fun evs _ => ∀ ev ∈ evs, p ev := by
  refine h.bind_except (fun _ _ => id) fun evs a hevs => (hf a).imp fun evs' _ hevs' => ?_
  rw [List.forall_mem_append]
  exact ⟨hevs, hevs'⟩

theorem adapt_all (h : Leaves x.run x'.run fun evs _ => ∀ ev ∈ evs, p ev) (f : ε → ε') :
    Leaves (x.adapt f).run (x'.adapt f).run fun evs _ => ∀ ev ∈ evs, p ev :=
  (h.adapt f).imp fun _ _ ⟨_, hevs, _⟩ => hevs

end

end Leaves

section

variable {K : Type} {m : Type → Type} [Monad m] [LawfulMonad m]

/-! ### Kernels that are watched -/

namespace Kernel

variable (k : Kernel K m)

theorem leaves_make (call : KernelCall K) : Leaves (k.make call).run (k.watched.make call).run fun evs answer =>
    evs = [WorkEvent.kernel (.made call answer)] := by
  cases call <;> exact .note _ _

theorem leaves_measure (solid : SolidRef) : Leaves (k.measure solid).run (k.watched.measure solid).run fun evs _ =>
    evs = [WorkEvent.kernel (.measured solid)] := .note _ _

theorem leaves_bounds (solid : SolidRef) : Leaves (k.bounds solid).run (k.watched.bounds solid).run fun evs _ =>
    evs = [WorkEvent.kernel (.bounded solid)] := .note _ _

theorem leaves_shutdown : Leaves k.shutdown k.watched.shutdown fun evs _ => evs = [WorkEvent.kernel .shutdown] :=
  .note _ _

/-- A script that comes to its end has been made step by step. -/
private theorem leaves_perform (steps : List (BuildStep K)) (h : Held SolidRef) :
    Leaves (k.perform h steps).run (k.watched.perform h steps).run fun evs result =>
      (∀ ev ∈ evs, ev.AsksKernel) ∧ ∀ h', result = .ok h' → List.Forall₂ WorkEvent.Makes evs steps := by
  induction steps generalizing h with
  | nil => exact .pure ⟨by simp, fun _ _ => .nil⟩
  | cons step steps ih =>
    rw [perform_cons, perform_cons]
    refine (k.leaves_make _).bind_except ?_ ?_
    · rintro _ e rfl
      exact ⟨by simp [WorkEvent.AsksKernel], nofun⟩
    · rintro _ r rfl
      refine (ih _).imp fun evs result ⟨hevs, hmade⟩ => ⟨?_, fun h' hresult => ?_⟩
      · exact List.forall_mem_cons.2 ⟨⟨_, rfl, nofun⟩, hevs⟩
      · exact .cons ⟨_, r, rfl, BuildStep.step_call h step⟩ (hmade h' hresult)

variable [Scalar K]

private theorem leaves_execute (plan : Plan K) : Leaves (k.execute plan).run (k.watched.execute plan).run
    fun evs result =>
      (∀ ev ∈ evs, ev.AsksKernel) ∧ ∀ r, result = .ok r → List.Forall₂ WorkEvent.Makes evs plan.steps := by
  rw [execute_eq_perform, execute_eq_perform]
  refine (k.leaves_make _).bind_except ?_ ?_
  · rintro _ e rfl
    exact ⟨by simp [WorkEvent.AsksKernel], nofun⟩
  · rintro _ r rfl
    refine ((k.leaves_perform _ _).map_except Held.current).imp fun evs result h => ?_
    obtain ⟨held, ⟨hevs, hmade⟩, rfl⟩ := h
    refine ⟨List.forall_mem_cons.2 ⟨⟨_, rfl, nofun⟩, hevs⟩, fun r' hresult => ?_⟩
    cases held with
    | error e => cases hresult
    | ok h' => exact .cons ⟨_, r, rfl, rfl⟩ (hmade h' rfl)

/-- A build asks the kernel only; if it succeeds, all calls of a plan have been answered. -/
theorem leaves_build (spec : SolidSpec K) : Leaves (k.build spec).run (k.watched.build spec).run fun evs result =>
    (∀ ev ∈ evs, ev.AsksKernel) ∧ ∀ r, result = .ok r → spec.BuiltIn evs := by
  rw [build, build]
  cases hplan : Plan.ofSpec spec with
  | error e => exact .pure ⟨by simp, nofun⟩
  | ok plan =>
    refine ((k.leaves_execute plan).adapt (BuildError.kernel spec.id)).imp fun evs result h => ?_
    obtain ⟨answer, ⟨hevs, hmade⟩, rfl⟩ := h
    refine ⟨hevs, fun r hresult => ⟨plan, hplan, ?_⟩⟩
    cases answer with
    | error e => cases hresult
    | ok r' => exact hmade r' rfl

end Kernel

/-! ### Renderers that are watched -/

namespace Renderer

variable (r : Renderer K m)

theorem leaves_shutdown : Leaves r.shutdown r.watched.shutdown fun evs _ => evs = [WorkEvent.renderer .shutdown] :=
  .note _ _

theorem leaves_make (call : RenderCall K) : Leaves (r.make call) (r.watched.make call) fun evs ev =>
    evs = [WorkEvent.renderer ev] ∧ ev.call = call := by
  have hnoted {α : Type} (event : Except RenderError α → RenderEvent K) (action : ExceptT RenderError m α)
      (hevent : ∀ answer, (event answer).call = call) : Leaves (do return event (← action.run))
        (do return event (← note (fun answer => WorkEvent.renderer (event answer)) action.run))
        fun evs ev => evs = [WorkEvent.renderer ev] ∧ ev.call = call := by
    refine (Leaves.note (fun answer => WorkEvent.renderer (event answer)) action.run).bind ?_
    rintro _ answer rfl
    exact .pure ⟨rfl, hevent answer⟩
  cases call
  case shutdown =>
    refine r.leaves_shutdown.bind ?_
    rintro _ _ rfl
    exact .pure ⟨rfl, rfl⟩
  all_goals exact hnoted _ _ fun _ => rfl

/-- A call whose answer is noted asks the renderer for something. -/
private theorem leaves_call {α : Type} (event : Except RenderError α → RenderEvent K)
    (hevent : ∀ answer, event answer ≠ .shutdown) (action : ExceptT RenderError m α) :
    Leaves action.run (note (fun answer => WorkEvent.renderer (event answer)) action.run)
      fun evs _ => ∀ ev ∈ evs, ev.AsksRenderer := by
  refine (Leaves.note _ action.run).imp ?_
  rintro _ answer rfl
  simpa [WorkEvent.AsksRenderer] using hevent answer

private theorem leaves_addViews (page : PageId) (body : BodyId) (views : List (ViewSpec K))
    (placed : List (String × ViewId)) :
    Leaves (r.addViews page body placed views).run (r.watched.addViews page body placed views).run
      fun evs _ => ∀ ev ∈ evs, ev.AsksRenderer := by
  induction views generalizing placed with
  | nil => exact .pure_all
  | cons v views ih =>
    rw [addViews_cons, addViews_cons]
    exact .bind_all (leaves_call (.addView page body v.request) (by simp) _) fun id => ih _

private theorem leaves_addDimensions (page : PageId) (placed : List (String × ViewId)) (dimensions : List DimensionSpec)
    (index : Nat) : Leaves (r.addDimensions page placed index dimensions).run
      (r.watched.addDimensions page placed index dimensions).run fun evs _ => ∀ ev ∈ evs, ev.AsksRenderer := by
  induction dimensions generalizing index with
  | nil => exact .pure_all
  | cons d dimensions ih =>
    rw [addDimensions, addDimensions]
    split
    · exact .pure_all
    · exact .bind_all (.adapt_all (leaves_call (.addDimension page _ d.request) (by simp) _) _) fun _ => ih _

private theorem leaves_exportTo {write : PageId → String → ExceptT RenderError m Unit}
    {watched : PageId → String → ExceptT RenderError (StateT (List (WorkEvent K)) m) Unit} {page : PageId}
    (h : ∀ path, Leaves (write page path).run (watched page path).run fun evs _ => ∀ ev ∈ evs, ev.AsksRenderer)
    (target : Option String) : Leaves (exportTo write page target).run (exportTo watched page target).run
      fun evs _ => ∀ ev ∈ evs, ev.AsksRenderer := by
  cases target with
  | none => exact .pure_all
  | some path => exact h path

variable [Scalar K]

theorem leaves_project (policy : Policy) (solid : SolidRef) (spec : DrawingSpec K) (targets : ExportTargets) :
    Leaves (r.project policy solid spec targets).run (r.watched.project policy solid spec targets).run
      fun evs _ => ∀ ev ∈ evs, ev.AsksRenderer := by
  rw [project, project]
  cases spec.fault? policy with
  | some fault => exact .pure_all
  | none =>
    refine .bind_all (.adapt_all (leaves_call (.createPage _ _) (by simp) _) _) fun page => ?_
    refine .bind_all (.adapt_all (leaves_call (.addBody page solid) (by simp) _) _) fun body => ?_
    refine .bind_all (.adapt_all (r.leaves_addViews page body spec.views []) _) fun placed => ?_
    refine .bind_all (.adapt_all (leaves_call (.recompute page) (by simp) _) _) fun _ => ?_
    refine .bind_all (r.leaves_addDimensions page placed spec.dimensions 0) fun _ => ?_
    refine .bind_all (.adapt_all (leaves_call (.recompute page) (by simp) _) _) fun _ => ?_
    refine .bind_all (.adapt_all (leaves_exportTo
      (fun path => leaves_call (.exportPdf page path) (by simp) _) targets.pdf) _) fun _ => ?_
    refine .bind_all (.adapt_all (leaves_exportTo
      (fun path => leaves_call (.exportSvg page path) (by simp) _) targets.svg) _) fun _ => ?_
    exact .pure_all

end Renderer

end

end SolidDrawing
