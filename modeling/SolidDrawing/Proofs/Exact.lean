import Mathlib
import SolidDrawing.Solid

/-!
# Exact arithmetic

The real numbers as scalars: every value is finite, nothing is rounded, and the order of coordinates is `≤`. There
the readings of vectors, planes, boxes and cylinders come down to inequalities between coordinates, which is what
`Box.contains_iff` and `Solid.cylinderContains_iff` say.
-/

namespace SolidDrawing

/-- Exact arithmetic. -/
noncomputable instance Scalar.real : Scalar ℝ where
  ofCount n := n
  ofDecimal m s e := if s then m / 10 ^ e else m * 10 ^ e
  decLe := inferInstance
  decLt := inferInstance
  same a b := decide (a = b)
  isFinite _ := true
  smaller := min
  larger := max
  magnitude x := |x|
  root := Real.sqrt
  floor x := ⌊x⌋₊
  orderLe a b := decide (a ≤ b)

namespace Scalar

/-! ### The operations -/

@[simp] theorem ofCount_real (n : Nat) : ofCount (K := ℝ) n = n := rfl

@[simp] theorem zero_real : @OfNat.ofNat ℝ 0 (instOfNat 0) = 0 := Nat.cast_zero

@[simp] theorem one_real : @OfNat.ofNat ℝ 1 (instOfNat 1) = 1 := Nat.cast_one

@[simp] theorem two_real : @OfNat.ofNat ℝ 2 (instOfNat 2) = 2 := Nat.cast_two

@[simp] theorem half_real : @OfScientific.ofScientific ℝ instOfScientific 5 true 1 = 1 / 2 := by
  show ((5 : ℕ) : ℝ) / 10 ^ 1 = 1 / 2
  norm_num

@[simp] theorem same_real {x y : ℝ} : same x y = true ↔ x = y := decide_eq_true_iff

@[simp] theorem isFinite_real (x : ℝ) : isFinite x = true := rfl

@[simp] theorem isPositive_real {x : ℝ} : isPositive x = true ↔ 0 < x := by simp [isPositive]

@[simp] theorem smaller_real (x y : ℝ) : smaller x y = min x y := rfl

@[simp] theorem larger_real (x y : ℝ) : larger x y = max x y := rfl

@[simp] theorem magnitude_real (x : ℝ) : magnitude x = |x| := rfl

@[simp] theorem root_real (x : ℝ) : root x = √x := rfl

@[simp] theorem orderLe_real {x y : ℝ} : orderLe x y = true ↔ x ≤ y := decide_eq_true_iff

end Scalar

/-! ### Components -/

namespace Vec3

variable {K : Type} [Scalar K]

@[simp] theorem add_x (v w : Vec3 K) : (v + w).x = v.x + w.x := rfl

@[simp] theorem add_y (v w : Vec3 K) : (v + w).y = v.y + w.y := rfl

@[simp] theorem add_z (v w : Vec3 K) : (v + w).z = v.z + w.z := rfl

@[simp] theorem sub_x (v w : Vec3 K) : (v - w).x = v.x - w.x := rfl

@[simp] theorem sub_y (v w : Vec3 K) : (v - w).y = v.y - w.y := rfl

@[simp] theorem sub_z (v w : Vec3 K) : (v - w).z = v.z - w.z := rfl

attribute [ext] Vec3

theorem sub_add_eq_sub_sub_swap (u v w : Vec3 ℝ) : u - (v + w) = u - w - v := by
  ext <;> simp only [sub_x, sub_y, sub_z, add_x, add_y, add_z] <;> ring

theorem allLe_iff {v w : Vec3 K} : v.allLe w = true ↔ v.x ≤ w.x ∧ v.y ≤ w.y ∧ v.z ≤ w.z := by
  simp [allLe, and_assoc]

theorem isPositive_iff {v : Vec3 ℝ} : v.isPositive = true ↔ 0 < v.x ∧ 0 < v.y ∧ 0 < v.z := by
  simp [isPositive, isFinite, and_assoc]

end Vec3

/-! ### Planes -/

namespace Plane

@[simp] theorem offsetOf_xy (p : Vec3 ℝ) : Plane.xy.offsetOf p = p.z := by
  simp [offsetOf, normal, Vec3.dot]

@[simp] theorem offsetOf_yz (p : Vec3 ℝ) : Plane.yz.offsetOf p = p.x := by
  simp [offsetOf, normal, Vec3.dot]

@[simp] theorem offsetOf_xz (p : Vec3 ℝ) : Plane.xz.offsetOf p = p.y := by
  simp [offsetOf, normal, Vec3.dot]

theorem offsetOf_sub (plane : Plane) (p q : Vec3 ℝ) :
    plane.offsetOf (p - q) = plane.offsetOf p - plane.offsetOf q := by
  cases plane <;> simp

theorem normSq_toLocal_sub (plane : Plane) (p q : Vec3 ℝ) : (plane.toLocal (p - q)).normSq =
    ((plane.toLocal p).x - (plane.toLocal q).x) ^ 2 + ((plane.toLocal p).y - (plane.toLocal q).y) ^ 2 := by
  cases plane <;> simp [toLocal, Vec2.normSq, sq]

/-- A point is found again from its coordinates in a plane and along the normal. -/
@[simp] theorem toWorld_toLocal (plane : Plane) (p : Vec3 ℝ) :
    plane.toWorld (plane.toLocal p) (plane.offsetOf p) = p := by
  cases plane <;> simp [toWorld, toLocal]

@[simp] theorem offsetOf_toWorld (plane : Plane) (p : Vec2 ℝ) (offset : ℝ) :
    plane.offsetOf (plane.toWorld p offset) = offset := by
  cases plane <;> simp [toWorld]

end Plane

/-! ### Boxes and cylinders -/

theorem Box.contains_iff {b : Box ℝ} {p : Vec3 ℝ} : b.contains p = true ↔
    (b.min.x ≤ p.x ∧ p.x ≤ b.max.x) ∧ (b.min.y ≤ p.y ∧ p.y ≤ b.max.y) ∧ b.min.z ≤ p.z ∧ p.z ≤ b.max.z := by
  simp only [contains, Bool.and_eq_true, Vec3.allLe_iff]
  tauto

namespace Solid

theorem cylinderContains_iff {plane : Plane} {center : Vec3 ℝ} {radius halfLength : ℝ} {p : Vec3 ℝ} :
    cylinderContains plane center radius halfLength p = true ↔
      |plane.offsetOf (p - center)| ≤ halfLength ∧ (plane.toLocal (p - center)).normSq ≤ radius * radius := by
  simp [cylinderContains]

end Solid

end SolidDrawing
