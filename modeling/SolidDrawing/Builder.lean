import SolidDrawing.Kernel
import SolidDrawing.Plan

/-!
# Building solids

A plan is carried out by calls to a kernel: the base first, then one tool after the other, each taken away from what
is there so far. A description without a plan reaches no kernel.
-/

namespace SolidDrawing

/-- Why a solid is not built. -/
inductive BuildError (K : Type) where
  | plan (error : PlanError K)
  | kernel (solid : String) (error : KernelError)
  deriving Repr, BEq, DecidableEq

/-- The text of a build error. -/
def BuildError.message {K : Type} [DecimalText K] : BuildError K → String
  | plan error => error.message
  | kernel solid error => "Kernel construction failed for SolidSpec '" ++ solid ++ "': " ++ error.message

variable {K : Type} [Scalar K]

/-- Sketch circles as a profile around the origin of the `xy` plane. -/
def SketchCircle.profile (circles : List (SketchCircle K)) : Profile K :=
  ⟨.xy, 0, circles.map fun c => ⟨.zero, c.radius⟩⟩

/-- The circle of a hole, on the plane through its center. -/
def ThroughHole.profile (h : ThroughHole K) : Profile K :=
  ⟨h.axis.plane, h.axis.plane.offsetOf h.center, [⟨h.axis.plane.toLocal h.center, h.radius⟩]⟩

namespace Kernel

variable {m : Type → Type} [Monad m] (k : Kernel K m)

/-- Makes the base of a solid. -/
def buildBase : Base K → ExceptT KernelError m SolidRef
  | .box b => k.createBox b.size ⟨b.centeredXy, b.centeredZ⟩
  | .sketch profile holes length => do
    let filled ← k.extrude (SketchCircle.profile profile) length .positive
    holes.foldlM (fun solid hole => do
      let tool ← k.extrude (SketchCircle.profile [hole]) length .positive
      k.subtract solid tool) filled

/-- Takes a box away. -/
def cutBox (solid : SolidRef) (cut : CutBox K) : ExceptT KernelError m SolidRef := do
  let box ← k.createBox cut.size .all
  let tool ← k.translate box cut.center
  k.subtract solid tool

/-- Takes a round hole away. It is as long to both sides of its center as the hole is deep. -/
def cutHole (solid : SolidRef) (hole : ThroughHole K) : ExceptT KernelError m SolidRef := do
  let tool ← k.extrude hole.profile (hole.depth * 2) .symmetric
  k.subtract solid tool

/-- Carries out a plan. -/
def execute (plan : Plan K) : ExceptT KernelError m SolidRef := do
  let base ← k.buildBase plan.base
  let cut ← plan.cutBoxes.foldlM k.cutBox base
  plan.throughHoles.foldlM k.cutHole cut

/-- Builds the solid of a description. -/
def build (spec : SolidSpec K) : ExceptT (BuildError K) m SolidRef :=
  match Plan.ofSpec spec with
  | .error e => throw (.plan e)
  | .ok plan => (k.execute plan).adapt (.kernel spec.id)

end Kernel

end SolidDrawing
