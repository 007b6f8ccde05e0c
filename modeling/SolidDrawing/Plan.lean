import SolidDrawing.Operation

/-!
# Build plans

Operations come as one flat list. `Buckets.ofSpec` sorts them by role and checks each of them, `Base.ofBuckets`
settles which kind of base the solid starts from, and `Plan.ofSpec` puts both together. What a plan holds needs no
further check.
-/

namespace SolidDrawing

/-- A rule about combining operations that is broken. -/
inductive Violation where
  | emptyOperations
  | duplicateExtrude
  | duplicateBaseBox
  | mixedBaseStyle
  | noBaseStyle
  deriving Repr, DecidableEq

/-- The text of a violation, to follow the name of the solid. -/
def Violation.message : Violation → String
  | emptyOperations => "contains no operations"
  | duplicateExtrude => "contains multiple Extrude operations"
  | duplicateBaseBox => "defines multiple BaseBox operations"
  | mixedBaseStyle => "mixes BaseBox with sketch/extrude operations; choose one base style"
  | noBaseStyle => "must define either a BaseBox or an Extrude with supporting sketch geometry"

/-- Why a description has no plan. -/
inductive PlanError (K : Type) where
  | invalidSpec (solid : String) (violation : Violation)
  | invalidParameter (solid : String) (index : Nat) (operation : OperationKind) (fault : ParameterFault K)
  | noPositiveGeometry (solid : String)
  deriving Repr, BEq, DecidableEq

/-- The text of a plan error. -/
def PlanError.message {K : Type} [DecimalText K] : PlanError K → String
  | invalidSpec solid violation => "SolidSpec '" ++ solid ++ "' " ++ violation.message
  | invalidParameter solid index operation fault =>
    "SolidSpec '" ++ solid ++ "': operation #" ++ toString index ++ " (" ++ operation.name ++ "): " ++ fault.message
  | noPositiveGeometry solid => "SolidSpec '" ++ solid ++ "' defines no positive geometry to extrude"

/-- Operations by role, each role in the order of the description. -/
structure Buckets (K : Type) where
  circles : List (SketchCircle K)
  extrude : Option (Extrude K)
  baseBox : Option (BaseBox K)
  cutBoxes : List (CutBox K)
  throughHoles : List (ThroughHole K)
  deriving Repr, BEq, DecidableEq

/-- What a solid starts from. -/
inductive Base (K : Type) where
  /-- A box. -/
  | box (box : BaseBox K)
  /-- Filled circles swept together, less the hole circles. -/
  | sketch (profile holes : List (SketchCircle K)) (length : K)
  deriving Repr, BEq, DecidableEq

/-- A checked recipe for a solid. -/
structure Plan (K : Type) where
  solid : String
  base : Base K
  cutBoxes : List (CutBox K)
  throughHoles : List (ThroughHole K)
  deriving Repr, BEq, DecidableEq

namespace Buckets

variable {K : Type}

/-- No operation of any role. -/
def empty : Buckets K := ⟨[], none, none, [], []⟩

/-- The rule that one more operation would break, whatever its parameters. -/
def violation? (b : Buckets K) : Operation K → Option Violation
  | .extrude _ => if b.extrude.isSome then some .duplicateExtrude else none
  | .baseBox _ => if b.baseBox.isSome then some .duplicateBaseBox else none
  | _ => none

/-- One more operation, put last in its role. -/
def add (b : Buckets K) : Operation K → Buckets K
  | .sketchCircle c => { b with circles := b.circles ++ [c] }
  | .extrude e => { b with extrude := some e }
  | .baseBox x => { b with baseBox := some x }
  | .cutBox c => { b with cutBoxes := b.cutBoxes ++ [c] }
  | .throughHole h => { b with throughHoles := b.throughHoles ++ [h] }

variable [Scalar K]

/-- Adds operations, the first of them at position `index`, until one of them is refused. -/
def addAll (solid : String) : Nat → Buckets K → List (Operation K) → Except (PlanError K) (Buckets K)
  | _, b, [] => .ok b
  | index, b, op :: rest =>
    match b.violation? op, op.fault? with
    | some violation, _ => .error (.invalidSpec solid violation)
    | none, some fault => .error (.invalidParameter solid index op.kind fault)
    | none, none => addAll solid (index + 1) (b.add op) rest

/-- The operations of a description by role. -/
def ofSpec (spec : SolidSpec K) : Except (PlanError K) (Buckets K) :=
  if spec.operations.isEmpty then .error (.invalidSpec spec.id .emptyOperations)
  else addAll spec.id 0 empty spec.operations

end Buckets

/-- The base that the roles determine: a box on its own, or a sketch with at least one filled circle. -/
def Base.ofBuckets {K : Type} (solid : String) (b : Buckets K) : Except (PlanError K) (Base K) :=
  match b.baseBox, b.extrude with
  | some x, none => if b.circles.isEmpty then .ok (.box x) else .error (.invalidSpec solid .mixedBaseStyle)
  | some _, some _ => .error (.invalidSpec solid .mixedBaseStyle)
  | none, some e =>
    let profile := b.circles.filter fun c => !c.isHole
    let holes := b.circles.filter fun c => c.isHole
    if profile.isEmpty then .error (.noPositiveGeometry solid) else .ok (.sketch profile holes e.length)
  | none, none => .error (.invalidSpec solid .noBaseStyle)

namespace Plan

variable {K : Type}

/-- The plan of a description. -/
def ofSpec [Scalar K] (spec : SolidSpec K) : Except (PlanError K) (Plan K) := do
  let buckets ← Buckets.ofSpec spec
  let base ← Base.ofBuckets spec.id buckets
  return ⟨spec.id, base, buckets.cutBoxes, buckets.throughHoles⟩

/-- How many times the plan takes material away. -/
def cutCount (p : Plan K) : Nat :=
  let holes := match p.base with
    | .box _ => 0
    | .sketch _ holes _ => holes.length
  holes + p.cutBoxes.length + p.throughHoles.length

end Plan

end SolidDrawing
