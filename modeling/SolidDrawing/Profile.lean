import SolidDrawing.Plane

/-!
# Profiles

Circles drawn on a plane, filled together, and the direction in which a filled profile is swept along the normal.
-/

namespace SolidDrawing

/-- A circle in plane coordinates. -/
structure Circle (K : Type) where
  center : Vec2 K
  radius : K
  deriving Repr, BEq, DecidableEq

/-- Circles on a plane at an offset along its normal; overlapping circles are filled together. -/
structure Profile (K : Type) where
  plane : Plane
  offset : K
  circles : List (Circle K)
  deriving Repr, BEq, DecidableEq

/-- The side of the plane that a sweep covers. -/
inductive Direction where
  | positive
  | negative
  | symmetric
  deriving Repr, DecidableEq

variable {K : Type} [Scalar K]

/-- Why a profile cannot be filled. -/
inductive ProfileFault (K : Type) where
  /-- Nothing is drawn. -/
  | empty
  /-- A circle of this radius has no usable radius or center. -/
  | degenerate (radius : K)
  deriving Repr, BEq, DecidableEq

/-- The circle has a finite positive radius and a finite center. -/
def Circle.isProper (c : Circle K) : Bool := Scalar.isPositive c.radius && c.center.isFinite

/-- The first reason, if any, why the profile cannot be filled. -/
def Profile.fault? (p : Profile K) : Option (ProfileFault K) :=
  if p.circles.isEmpty then some .empty
  else (p.circles.find? fun c => !c.isProper).map fun c => .degenerate c.radius

/-- The two ends of a sweep of the given distance, relative to the plane. -/
def Direction.span : Direction → K → K × K
  | .positive, d => (0, d)
  | .negative, d => (-d, 0)
  | .symmetric, d => (-d / 2, d / 2)

end SolidDrawing
