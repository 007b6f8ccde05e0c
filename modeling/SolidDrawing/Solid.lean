import SolidDrawing.Box
import SolidDrawing.Plane
import SolidDrawing.Span

/-!
# Solids

A solid is a tree of boxes and of cylinders along the axes, joined and taken from one another. The tree is read in
three ways: the points it contains, the box around it, and the spans in which a vertical line runs through it.
Boundary points belong to a box and to a cylinder.
-/

namespace SolidDrawing

/-- A solid put together from boxes and cylinders. The axis of a cylinder is the normal of its plane. -/
inductive Solid (K : Type) where
  | cuboid (box : Box K)
  | cylinder (plane : Plane) (center : Vec3 K) (radius halfLength : K)
  | union (parts : List (Solid K))
  | difference (target tool : Solid K)
  deriving Inhabited

namespace Solid

variable {K : Type} [Scalar K]

/-- The box around a cylinder. -/
def cylinderBounds (plane : Plane) (center : Vec3 K) (radius halfLength : K) : Box K :=
  let axis : Vec3 K := plane.normal
  let extent := axis.scale halfLength + ((⟨1, 1, 1⟩ : Vec3 K) - axis).scale radius
  .ofCorners (center - extent) (center + extent)

mutual

/-- A box around the solid; nothing that is taken away makes it smaller. -/
def bounds : Solid K → Box K
  | cuboid box => box
  | cylinder plane center radius halfLength => cylinderBounds plane center radius halfLength
  | union parts => boundsAll parts
  | difference target _ => target.bounds

/-- A box around several solids; around none of them it is the origin. -/
def boundsAll : List (Solid K) → Box K
  | [] => .ofCorners .zero .zero
  | part :: rest => boundsFrom part.bounds rest

/-- A box around another box and several solids. -/
def boundsFrom (box : Box K) : List (Solid K) → Box K
  | [] => box
  | part :: rest => boundsFrom (box.union part.bounds) rest

end

mutual

/-- The solid moved by `offset`. -/
def translated (offset : Vec3 K) : Solid K → Solid K
  | cuboid box => cuboid (box.translated offset)
  | cylinder plane center radius halfLength => cylinder plane (center + offset) radius halfLength
  | union parts => union (translatedAll offset parts)
  | difference target tool => difference (target.translated offset) (tool.translated offset)

/-- Several solids moved by `offset`. -/
def translatedAll (offset : Vec3 K) : List (Solid K) → List (Solid K)
  | [] => []
  | part :: rest => part.translated offset :: translatedAll offset rest

end

/-- The point lies in a cylinder: near enough to the middle along the axis, and near enough to the axis. -/
def cylinderContains (plane : Plane) (center : Vec3 K) (radius halfLength : K) (p : Vec3 K) : Bool :=
  let rel := p - center
  decide (Scalar.magnitude (plane.offsetOf rel) ≤ halfLength) && decide ((plane.toLocal rel).normSq ≤ radius * radius)

mutual

/-- The point lies in the solid. -/
def contains (p : Vec3 K) : Solid K → Bool
  | cuboid box => box.contains p
  | cylinder plane center radius halfLength => cylinderContains plane center radius halfLength p
  | union parts => containsAny p parts
  | difference target tool => target.contains p && !tool.contains p

/-- The point lies in one of several solids. -/
def containsAny (p : Vec3 K) : List (Solid K) → Bool
  | [] => false
  | part :: rest => part.contains p || containsAny p rest

end

/-- The span of the vertical line through `(x, y)` in a box. -/
@[specialize] def cuboidSpans (box : Box K) (x y : K) : Spans K :=
  if box.min.x ≤ x ∧ x ≤ box.max.x ∧ box.min.y ≤ y ∧ y ≤ box.max.y then
    Span.toSpans ⟨box.min.z, box.max.z⟩
  else []

/-- The span of the vertical line through `(x, y)` in a cylinder. -/
@[specialize] def cylinderSpans (plane : Plane) (center : Vec3 K) (radius halfLength x y : K) : Spans K :=
  let dx := x - center.x
  let dy := y - center.y
  let rr := radius * radius
  match plane with
  | .xy =>
    if dx * dx + dy * dy ≤ rr then Span.toSpans ⟨center.z - halfLength, center.z + halfLength⟩ else []
  | .yz =>
    if Scalar.magnitude dx ≤ halfLength ∧ dy * dy ≤ rr then
      let dz := Scalar.root (rr - dy * dy)
      Span.toSpans ⟨center.z - dz, center.z + dz⟩
    else []
  | .xz =>
    if Scalar.magnitude dy ≤ halfLength ∧ dx * dx ≤ rr then
      let dz := Scalar.root (rr - dx * dx)
      Span.toSpans ⟨center.z - dz, center.z + dz⟩
    else []

mutual

/-- The spans in which the vertical line through `(x, y)` runs through the solid. -/
@[specialize] def spansAt (x y : K) : Solid K → Spans K
  | cuboid box => cuboidSpans box x y
  | cylinder plane center radius halfLength => cylinderSpans plane center radius halfLength x y
  | union parts => spansFrom x y [] parts
  | difference target tool =>
    match target.spansAt x y with
    | [] => []
    | base => Spans.difference base (tool.spansAt x y)

/-- The spans of several solids, together with `spans`. -/
@[specialize] def spansFrom (x y : K) (spans : Spans K) : List (Solid K) → Spans K
  | [] => spans
  | part :: rest => spansFrom x y (Spans.union spans (part.spansAt x y)) rest

end

end Solid

end SolidDrawing
