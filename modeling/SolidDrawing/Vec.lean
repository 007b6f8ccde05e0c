import SolidDrawing.Scalar

/-!
# Vectors of the plane and of space

Componentwise arithmetic. Sums of products are taken from the first component to the last.
-/

namespace SolidDrawing

/-- A vector of the plane. -/
structure Vec2 (K : Type) where
  x : K
  y : K
  deriving Repr, BEq, DecidableEq

/-- A vector of space. -/
structure Vec3 (K : Type) where
  x : K
  y : K
  z : K
  deriving Repr, BEq, DecidableEq

variable {K : Type} [Scalar K]

namespace Vec2

/-- The origin of the plane. -/
def zero : Vec2 K := ⟨0, 0⟩

@[inline] def normSq (v : Vec2 K) : K := v.x * v.x + v.y * v.y

@[inline] def isFinite (v : Vec2 K) : Bool := Scalar.isFinite v.x && Scalar.isFinite v.y

end Vec2

namespace Vec3

/-- The origin of space. -/
def zero : Vec3 K := ⟨0, 0, 0⟩

instance : Add (Vec3 K) := ⟨fun v w => ⟨v.x + w.x, v.y + w.y, v.z + w.z⟩⟩

instance : Sub (Vec3 K) := ⟨fun v w => ⟨v.x - w.x, v.y - w.y, v.z - w.z⟩⟩

/-- Every component multiplied by `c`. -/
@[inline] def scale (v : Vec3 K) (c : K) : Vec3 K := ⟨v.x * c, v.y * c, v.z * c⟩

@[inline] def dot (v w : Vec3 K) : K := v.x * w.x + v.y * w.y + v.z * w.z

@[inline] def normSq (v : Vec3 K) : K := v.dot v

@[inline] def isFinite (v : Vec3 K) : Bool :=
  Scalar.isFinite v.x && Scalar.isFinite v.y && Scalar.isFinite v.z

/-- Finite, with every component greater than zero. -/
@[inline] def isPositive (v : Vec3 K) : Bool :=
  v.isFinite && decide (0 < v.x) && decide (0 < v.y) && decide (0 < v.z)

/-- Componentwise smaller values. -/
@[inline] def lower (v w : Vec3 K) : Vec3 K :=
  ⟨Scalar.smaller v.x w.x, Scalar.smaller v.y w.y, Scalar.smaller v.z w.z⟩

/-- Componentwise larger values. -/
@[inline] def upper (v w : Vec3 K) : Vec3 K :=
  ⟨Scalar.larger v.x w.x, Scalar.larger v.y w.y, Scalar.larger v.z w.z⟩

/-- `v ≤ w` in every component. -/
@[inline] def allLe (v w : Vec3 K) : Bool :=
  decide (v.x ≤ w.x) && decide (v.y ≤ w.y) && decide (v.z ≤ w.z)

end Vec3

end SolidDrawing
