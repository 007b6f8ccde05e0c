import SolidDrawing.Vec
import SolidDrawing.Text.Blank

/-!
# Axes and planes

The three coordinate axes, read from their letters in either case, and the three coordinate planes. A plane has two
coordinates of its own and, at an offset along its normal, meets every point of space exactly once:
`Plane.toWorld` and `Plane.toLocal` go between the two.
-/

namespace SolidDrawing

/-- A coordinate plane, named by its two local axes. -/
inductive Plane where
  | xy
  | yz
  | xz
  deriving Repr, DecidableEq

namespace Plane

variable {K : Type} [Scalar K]

/-- The unit normal. -/
@[inline] def normal : Plane → Vec3 K
  | xy => ⟨0, 0, 1⟩
  | yz => ⟨1, 0, 0⟩
  | xz => ⟨0, 1, 0⟩

/-- The point of space with the given plane coordinates, at `offset` along the normal. -/
@[inline] def toWorld (plane : Plane) (p : Vec2 K) (offset : K) : Vec3 K :=
  match plane with
  | xy => ⟨p.x, p.y, offset⟩
  | yz => ⟨offset, p.x, p.y⟩
  | xz => ⟨p.x, offset, p.y⟩

/-- The plane coordinates of a point of space. -/
@[inline] def toLocal (plane : Plane) (p : Vec3 K) : Vec2 K :=
  match plane with
  | xy => ⟨p.x, p.y⟩
  | yz => ⟨p.y, p.z⟩
  | xz => ⟨p.x, p.z⟩

/-- The coordinate of a point of space along the normal. -/
@[inline] def offsetOf (plane : Plane) (p : Vec3 K) : K := p.dot plane.normal

@[simp] theorem toLocal_toWorld {K : Type} (plane : Plane) (p : Vec2 K) (offset : K) :
    plane.toLocal (plane.toWorld p offset) = p := by
  cases plane <;> rfl

/-- The name of the plane. -/
def name : Plane → String
  | xy => "XY"
  | yz => "YZ"
  | xz => "XZ"

end Plane

/-- A coordinate axis. -/
inductive Axis where
  | x
  | y
  | z
  deriving Repr, DecidableEq

namespace Axis

/-- The plane perpendicular to the axis. -/
def plane : Axis → Plane
  | x => .yz
  | y => .xz
  | z => .xy

/-- The unit vector along the axis. -/
def unit {K : Type} [Scalar K] : Axis → Vec3 K
  | x => ⟨1, 0, 0⟩
  | y => ⟨0, 1, 0⟩
  | z => ⟨0, 0, 1⟩

/-- The small letter of the axis. -/
def letter : Axis → String
  | x => "x"
  | y => "y"
  | z => "z"

/-- The axis with the given small letter. -/
def ofLetter? : String → Option Axis
  | "x" => some x
  | "y" => some y
  | "z" => some z
  | _ => none

@[simp] theorem ofLetter?_letter (a : Axis) : ofLetter? a.letter = some a := by
  cases a <;> rfl

theorem letter_of_ofLetter? {s : String} {a : Axis} (h : ofLetter? s = some a) : a.letter = s := by
  unfold ofLetter? at h
  split at h <;> simp_all [letter] <;> cases h <;> rfl

/-- Reads an axis from its letter in either case, blanks around it allowed. -/
def parse? (s : String) : Option Axis := ofLetter? (Text.lowerAscii (Text.trim s))

end Axis

end SolidDrawing
