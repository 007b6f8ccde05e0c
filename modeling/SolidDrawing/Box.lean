import SolidDrawing.Vec

/-!
# Boxes

Boxes with edges along the axes, given by their lowest and highest corner.
-/

namespace SolidDrawing

/-- A box with edges along the axes. -/
structure Box (K : Type) where
  min : Vec3 K
  max : Vec3 K
  deriving Repr, BEq, DecidableEq

variable {K : Type} [Scalar K]

namespace Box

/-- The box with two opposite corners, whichever of them is the lower one in each direction. -/
def ofCorners (a b : Vec3 K) : Box K := ⟨a.lower b, a.upper b⟩

/-- The edge lengths. -/
def size (b : Box K) : Vec3 K := b.max - b.min

def center (b : Box K) : Vec3 K := (b.min + b.max).scale 0.5

/-- The smallest box that holds both. -/
def union (a b : Box K) : Box K := ⟨a.min.lower b.min, a.max.upper b.max⟩

/-- The box moved by `offset`. -/
def translated (b : Box K) (offset : Vec3 K) : Box K := ⟨b.min + offset, b.max + offset⟩

/-- The point lies in the box or on its boundary. -/
@[inline] def contains (b : Box K) (p : Vec3 K) : Bool := b.min.allLe p && p.allLe b.max

end Box

/-- Where a new box lies: along a centered direction it covers `[-s/2, s/2]`, along another one `[0, s]`. -/
structure Centering where
  xy : Bool
  z : Bool
  deriving Repr, DecidableEq

namespace Centering

/-- Centered in every direction. -/
def all : Centering := ⟨true, true⟩

/-- The lowest corner of a new box of the given size. -/
def minCorner (c : Centering) (size : Vec3 K) : Vec3 K :=
  let half := size.scale 0.5
  ⟨if c.xy then -half.x else 0, if c.xy then -half.y else 0, if c.z then -half.z else 0⟩

end Centering

end SolidDrawing
