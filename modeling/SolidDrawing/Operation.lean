import SolidDrawing.Plane
import SolidDrawing.Decimal.Text

/-!
# Operations

The closed set of operations that a solid is described by. `Operation.fault?` finds the first parameter that is out
of range: lengths and radii are finite and positive, centers are finite.
-/

namespace SolidDrawing

/-- A circle around the origin of the `xy` plane; a hole takes material away. -/
structure SketchCircle (K : Type) where
  radius : K
  isHole : Bool
  deriving Repr, BEq, DecidableEq

/-- The sketch is swept upwards by `length`. -/
structure Extrude (K : Type) where
  length : K
  deriving Repr, BEq, DecidableEq

/-- A box that the other operations start from. -/
structure BaseBox (K : Type) where
  width : K
  depth : K
  height : K
  centeredXy : Bool
  centeredZ : Bool
  deriving Repr, BEq, DecidableEq

/-- A box that is taken away. -/
structure CutBox (K : Type) where
  width : K
  depth : K
  height : K
  center : Vec3 K
  deriving Repr, BEq, DecidableEq

/-- A round hole along an axis, reaching `depth` to both sides of its center. -/
structure ThroughHole (K : Type) where
  radius : K
  depth : K
  axis : Axis
  center : Vec3 K
  deriving Repr, BEq, DecidableEq

/-- The edge lengths of a base box. -/
def BaseBox.size {K : Type} (b : BaseBox K) : Vec3 K := ⟨b.width, b.depth, b.height⟩

/-- The edge lengths of a cut. -/
def CutBox.size {K : Type} (b : CutBox K) : Vec3 K := ⟨b.width, b.depth, b.height⟩

/-- One step in the description of a solid. -/
inductive Operation (K : Type) where
  | sketchCircle (circle : SketchCircle K)
  | extrude (extrude : Extrude K)
  | baseBox (box : BaseBox K)
  | cutBox (cut : CutBox K)
  | throughHole (hole : ThroughHole K)
  deriving Repr, BEq, DecidableEq

/-- A solid is named and described by operations in order. -/
structure SolidSpec (K : Type) where
  id : String
  operations : List (Operation K)
  deriving Repr, BEq, DecidableEq

/-- The kinds of operations. -/
inductive OperationKind where
  | sketchCircle
  | extrude
  | baseBox
  | cutBox
  | throughHole
  deriving Repr, DecidableEq

namespace OperationKind

/-- All kinds, in the order in which they are listed to users. -/
def all : List OperationKind := [sketchCircle, extrude, baseBox, cutBox, throughHole]

/-- The name that stands for the kind in jobs and messages. -/
def name : OperationKind → String
  | sketchCircle => "SketchCircle"
  | extrude => "Extrude"
  | baseBox => "BaseBox"
  | cutBox => "CutBox"
  | throughHole => "ThroughHole"

/-- The kind of the given name. -/
def ofName? (s : String) : Option OperationKind := all.find? fun k => k.name == s

@[simp] theorem ofName?_name (k : OperationKind) : ofName? k.name = some k := by
  cases k <;> decide

theorem name_of_ofName? {s : String} {k : OperationKind} (h : ofName? s = some k) : k.name = s := by
  simpa using List.find?_some h

end OperationKind

/-- A parameter that is out of range. -/
inductive ParameterFault (K : Type) where
  | notPositive (field : String) (value : K)
  | notFinite (field : String)
  | unknownAxis (literal : String)
  deriving Repr, BEq, DecidableEq

/-- The text of a parameter fault. -/
def ParameterFault.message {K : Type} [DecimalText K] : ParameterFault K → String
  | notPositive field value => field ++ " must be positive, got " ++ DecimalText.text value
  | notFinite field => field ++ " must be finite"
  | unknownAxis literal => "axis must be one of 'x', 'y', 'z', got '" ++ literal ++ "'"

/-- Reads an axis; the fault shows the literal as it was given. -/
def Axis.parse {K : Type} (s : String) : Except (ParameterFault K) Axis :=
  match parse? s with
  | some axis => .ok axis
  | none => .error (.unknownAxis s)

variable {K : Type} [Scalar K]

/-- The fault of a length, if any: being finite is asked first. -/
def lengthFault? (field : String) (value : K) : Option (ParameterFault K) :=
  if !Scalar.isFinite value then some (.notFinite field)
  else if value ≤ 0 then some (.notPositive field value)
  else none

/-- The fault of a point, if any. -/
def pointFault? (field : String) (p : Vec3 K) : Option (ParameterFault K) :=
  if p.isFinite then none else some (.notFinite field)

/-- The fault of a box's edge lengths, if any. -/
def sizeFault? (size : Vec3 K) : Option (ParameterFault K) :=
  lengthFault? "width" size.x <|> lengthFault? "depth" size.y <|> lengthFault? "height" size.z

namespace Operation

/-- The kind of an operation. -/
def kind {K : Type} : Operation K → OperationKind
  | sketchCircle _ => .sketchCircle
  | extrude _ => .extrude
  | baseBox _ => .baseBox
  | cutBox _ => .cutBox
  | throughHole _ => .throughHole

/-- The first parameter of the operation that is out of range, if any. -/
def fault? : Operation K → Option (ParameterFault K)
  | sketchCircle c => lengthFault? "radius" c.radius
  | extrude e => lengthFault? "length" e.length
  | baseBox b => sizeFault? b.size
  | cutBox c => sizeFault? c.size <|> pointFault? "center" c.center
  | throughHole h =>
    lengthFault? "radius" h.radius <|> lengthFault? "depth" h.depth <|> pointFault? "center" h.center

end Operation

end SolidDrawing
