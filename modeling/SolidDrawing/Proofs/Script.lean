import SolidDrawing.Builder

/-!
# Plans as scripts

A plan is carried out by one call that makes its base and then by steps, each of which works on the solid that is there
so far and on the latest solid that was made (`Kernel.execute_eq_perform`). The steps can be listed without a kernel:
what the calls are is settled by the plan, only the handles in them are not.
-/

namespace SolidDrawing

/-- A call that makes a solid, but for the handles in it: `translate` moves the latest solid, `subtract` takes the
latest solid from the current one. -/
inductive BuildStep (K : Type) where
  | extrude (profile : Profile K) (distance : K) (direction : Direction)
  | createBox (size : Vec3 K) (centering : Centering)
  | translate (offset : Vec3 K)
  | subtract
  deriving Repr, BEq, DecidableEq

/-- What a script works on: the solid that is there so far, and the latest one that was made. -/
structure Held (α : Type) where
  current : α
  latest : α
  deriving Repr, DecidableEq

namespace BuildStep

variable {K : Type}

/-- The step takes material away. -/
def isCut : BuildStep K → Bool
  | subtract => true
  | _ => false

/-- The step as a call. -/
def call (h : Held SolidRef) : BuildStep K → KernelCall K
  | extrude profile distance direction => .extrude profile distance direction
  | createBox size centering => .createBox size centering
  | translate offset => .translate h.latest offset
  | subtract => .subtract h.current h.latest

end BuildStep

/-- A call without its handles. -/
def KernelCall.step {K : Type} : KernelCall K → BuildStep K
  | extrude profile distance direction => .extrude profile distance direction
  | createBox size centering => .createBox size centering
  | subtract _ _ => .subtract
  | translate _ offset => .translate offset

@[simp] theorem BuildStep.step_call {K : Type} (h : Held SolidRef) (step : BuildStep K) :
    (step.call h).step = step := by
  cases step <;> rfl

/-- What is held after a step: a cut is what there is from now on, anything else waits to be used. -/
def Held.after {α K : Type} (h : Held α) (step : BuildStep K) (a : α) : Held α :=
  ⟨if step.isCut then a else h.current, a⟩

variable {K : Type}

/-! ### The script of a plan -/

section

variable [Scalar K]

/-- The call that makes a base: a box, or all filled circles around the origin swept upwards together. -/
def Base.call : Base K → KernelCall K
  | .box b => .createBox ⟨b.width, b.depth, b.height⟩ ⟨b.centeredXy, b.centeredZ⟩
  | .sketch profile _ length => .extrude ⟨.xy, 0, profile.map fun c => ⟨⟨0, 0⟩, c.radius⟩⟩ length .positive

/-- The steps that finish a base: each hole is swept as far as the filled circles and taken away. -/
def Base.steps : Base K → List (BuildStep K)
  | .box _ => []
  | .sketch _ holes length =>
    holes.flatMap fun hole => [.extrude ⟨.xy, 0, [⟨⟨0, 0⟩, hole.radius⟩]⟩ length .positive, .subtract]

/-- The steps that take a box away. -/
def CutBox.steps (c : CutBox K) : List (BuildStep K) :=
  [.createBox ⟨c.width, c.depth, c.height⟩ ⟨true, true⟩, .translate c.center, .subtract]

/-- The steps that take a through-hole away. -/
def ThroughHole.steps (h : ThroughHole K) : List (BuildStep K) :=
  [.extrude ⟨h.axis.plane, h.axis.plane.offsetOf h.center, [⟨h.axis.plane.toLocal h.center, h.radius⟩]⟩
    (h.depth * 2) .symmetric, .subtract]

/-- The steps of a plan behind the first call. -/
def Plan.further (p : Plan K) : List (BuildStep K) :=
  p.base.steps ++ p.cutBoxes.flatMap CutBox.steps ++ p.throughHoles.flatMap ThroughHole.steps

/-- All steps of a plan. -/
def Plan.steps (p : Plan K) : List (BuildStep K) := p.base.call.step :: p.further

end

/-! ### Performing a script -/

namespace Kernel

variable {m : Type → Type} [Monad m]

/-- Performs the steps of a script. -/
def perform (k : Kernel K m) (h : Held SolidRef) (steps : List (BuildStep K)) : ExceptT KernelError m (Held SolidRef) :=
  steps.foldlM (fun h step => h.after step <$> k.make (step.call h)) h

@[simp] theorem perform_nil (k : Kernel K m) (h : Held SolidRef) : k.perform h [] = pure h := rfl

variable [LawfulMonad m] (k : Kernel K m)

theorem perform_cons (h : Held SolidRef) (step : BuildStep K) (steps : List (BuildStep K)) :
    k.perform h (step :: steps) = k.make (step.call h) >>= fun r => k.perform (h.after step r) steps := by
  simp [perform]

theorem perform_append (h : Held SolidRef) (steps steps' : List (BuildStep K)) :
    k.perform h (steps ++ steps') = k.perform h steps >>= fun h => k.perform h steps' := by
  simp [perform]

/-- Cuts that are scripts one by one are a script together. -/
private theorem perform_flatMap {α : Type} {f : α → List (BuildStep K)}
    {g : SolidRef → α → ExceptT KernelError m SolidRef}
    (hf : ∀ a c l, k.perform ⟨c, l⟩ (f a) = (fun r => ⟨r, r⟩) <$> g c a) (as : List α) (c : SolidRef) :
    k.perform ⟨c, c⟩ (as.flatMap f) = (fun r => ⟨r, r⟩) <$> as.foldlM g c := by
  induction as generalizing c with
  | nil => simp
  | cons a as ih => simp [perform_append, hf, ih]

private theorem perform_cutBox (cut : CutBox K) (c l : SolidRef) :
    k.perform ⟨c, l⟩ cut.steps = (fun r => ⟨r, r⟩) <$> k.cutBox c cut := by
  simp [CutBox.steps, cutBox, perform_cons, BuildStep.call, make, Held.after, BuildStep.isCut, CutBox.size,
    Centering.all]

variable [Scalar K]

private theorem perform_hole (hole : SketchCircle K) (length : K) (c l : SolidRef) :
    k.perform ⟨c, l⟩ [.extrude ⟨.xy, 0, [⟨⟨0, 0⟩, hole.radius⟩]⟩ length .positive, .subtract] =
      (fun r => ⟨r, r⟩) <$> (do
        let tool ← k.extrude (SketchCircle.profile [hole]) length .positive
        k.subtract c tool) := by
  simp [perform_cons, BuildStep.call, make, Held.after, BuildStep.isCut, SketchCircle.profile, Vec2.zero]

private theorem perform_throughHole (hole : ThroughHole K) (c l : SolidRef) :
    k.perform ⟨c, l⟩ hole.steps = (fun r => ⟨r, r⟩) <$> k.cutHole c hole := by
  simp [ThroughHole.steps, cutHole, perform_cons, BuildStep.call, make, Held.after, BuildStep.isCut,
    ThroughHole.profile]

private theorem perform_base (base : Base K) :
    (k.make base.call >>= fun r => k.perform ⟨r, r⟩ base.steps) = (fun r => ⟨r, r⟩) <$> k.buildBase base := by
  cases base with
  | box b => simp [Base.call, Base.steps, buildBase, make, BaseBox.size]
  | sketch profile holes length =>
    simp only [Base.call, Base.steps, buildBase, make, map_bind, SketchCircle.profile, Vec2.zero]
    refine bind_congr fun r => ?_
    exact k.perform_flatMap (fun hole c l => k.perform_hole hole length c l) holes r

/-- A plan is carried out by making its base and performing its script. -/
theorem execute_eq_perform (plan : Plan K) :
    k.execute plan = k.make plan.base.call >>= fun r => Held.current <$> k.perform ⟨r, r⟩ plan.further := by
  -- after each cut both solids that are held are the same, which is where the scripts of two cuts meet
  have h : (k.make plan.base.call >>= fun r => k.perform ⟨r, r⟩ plan.further) =
      (fun r => ⟨r, r⟩) <$> k.execute plan := by
    simp only [Plan.further, perform_append]
    rw [← bind_assoc, ← bind_assoc, perform_base]
    simp only [execute, bind_map_left, map_bind, bind_assoc, perform_flatMap _ k.perform_cutBox,
      perform_flatMap _ k.perform_throughHole]
  have := congrArg (fun x => Held.current <$> x) h
  simpa using this.symm

end Kernel

end SolidDrawing
