import SolidDrawing.Proofs.Material

/-!
# Points of what a call makes

A new sweep or a new box is made whenever its parameters are in range (`Store.run_extrude_isOk_iff`,
`Store.run_createBox_isOk_iff`). What a call makes is settled point by point (`KernelCall.Covers`): by the parameters
of a sweep or a box, and by the points of the solids that a cut or a move starts from, whatever calls those came from.
-/

namespace SolidDrawing

/-- The point lies in what the call makes: in the sweep of one of the circles, in the new box, in the target of the cut
and not in its tool, or where a point of the solid is moved to. -/
def KernelCall.Covers (s : Store ℝ) (p : Vec3 ℝ) : KernelCall ℝ → Prop
  | extrude profile distance direction =>
    (profile.offset + (direction.span distance).1 ≤ profile.plane.offsetOf p ∧
      profile.plane.offsetOf p ≤ profile.offset + (direction.span distance).2) ∧
    ∃ c ∈ profile.circles, ((profile.plane.toLocal p).x - c.center.x) ^ 2 +
      ((profile.plane.toLocal p).y - c.center.y) ^ 2 ≤ c.radius ^ 2
  | createBox size centering =>
    ((centering.minCorner size).x ≤ p.x ∧ p.x ≤ (centering.minCorner size).x + size.x) ∧
    ((centering.minCorner size).y ≤ p.y ∧ p.y ≤ (centering.minCorner size).y + size.y) ∧
    (centering.minCorner size).z ≤ p.z ∧ p.z ≤ (centering.minCorner size).z + size.z
  | subtract target tool => s.contains target p = .ok true ∧ s.contains tool p = .ok false
  | translate solid offset => ∃ q, p = q + offset ∧ s.contains solid q = .ok true

namespace Store

/-! ### Parameters in range -/

section

variable {K : Type} [Scalar K] [DecimalText K] (s : Store K)

private theorem run_make_isOk_iff (call : KernelCall K) :
    (∃ r s', ((kernel : Kernel K (StateM (Store K))).make call).run.run s = (.ok r, s')) ↔
      ∃ solid, s.made call = .ok solid := by
  rw [run_kernel_make, make_eq]
  cases s.made call with
  | error e => exact iff_of_false (by rintro ⟨r, s', h⟩; cases h) (by rintro ⟨solid, h⟩; cases h)
  | ok solid => exact iff_of_true ⟨_, _, rfl⟩ ⟨solid, rfl⟩

theorem run_extrude_isOk_iff (profile : Profile K) (distance : K) (direction : Direction) :
    (∃ r s', ((kernel : Kernel K (StateM (Store K))).make (.extrude profile distance direction)).run.run s =
      (.ok r, s')) ↔
      profile.circles ≠ [] ∧
      (∀ c ∈ profile.circles, (Scalar.isFinite c.radius = true ∧ 0 < c.radius) ∧
        Scalar.isFinite c.center.x = true ∧ Scalar.isFinite c.center.y = true) ∧
      Scalar.isFinite distance = true ∧ 0 < distance := by
  simp only [run_make_isOk_iff, made_extrude, exists_and_left, exists_eq, and_true, Profile.fault?_eq_none_iff,
    Circle.isProper, Scalar.isPositive, Vec2.isFinite, Bool.and_eq_true, decide_eq_true_eq, and_assoc]

theorem run_createBox_isOk_iff (size : Vec3 K) (centering : Centering) :
    (∃ r s', ((kernel : Kernel K (StateM (Store K))).make (.createBox size centering)).run.run s = (.ok r, s')) ↔
      (Scalar.isFinite size.x = true ∧ 0 < size.x) ∧ (Scalar.isFinite size.y = true ∧ 0 < size.y) ∧
      Scalar.isFinite size.z = true ∧ 0 < size.z := by
  simp only [run_make_isOk_iff, made_createBox, exists_and_left, exists_eq, and_true, Vec3.isPositive, Vec3.isFinite,
    Bool.and_eq_true, decide_eq_true_eq]
  tauto

end

/-! ### Points -/

section

variable {s : Store ℝ} {r : SolidRef} {solid : Solid ℝ} {p : Vec3 ℝ}

private theorem contains_eq_ok_iff (h : s.find r = .ok solid) {inside : Bool} :
    s.contains r p = .ok inside ↔ solid.contains p = inside := by
  rw [contains_of_find h, Except.ok.injEq]

variable [DecimalText ℝ]

/-- The solid that a call makes has the points that the call covers. -/
theorem contains_made_iff {call : KernelCall ℝ} (h : s.made call = .ok solid) :
    solid.contains p = true ↔ call.Covers s p := by
  cases call with
  | extrude profile distance direction =>
    obtain ⟨-, rfl⟩ := made_extrude.1 h
    exact contains_swept_iff
  | createBox size centering =>
    obtain ⟨hsize, rfl⟩ := made_createBox.1 h
    rw [Solid.contains_cuboid]
    exact Box.contains_ofCorners_add hsize
  | subtract target tool =>
    obtain ⟨a, b, ha, hb, -, rfl⟩ := made_subtract.1 h
    rw [KernelCall.Covers, contains_eq_ok_iff ha, contains_eq_ok_iff hb]
    simp
  | translate moved offset =>
    obtain ⟨a, ha, rfl⟩ := made_translate.1 h
    rw [Solid.contains_translated, KernelCall.Covers]
    constructor
    · exact fun hp => ⟨p - offset, by ext <;> simp, (contains_eq_ok_iff ha).2 hp⟩
    · rintro ⟨q, rfl, hq⟩
      have hback : q + offset - offset = q := by ext <;> simp
      rw [hback]
      exact (contains_eq_ok_iff ha).1 hq

end

/-- Sweeps and boxes are made exactly when their parameters are in range, and with exact arithmetic the kernel of solid
trees finds a point in the solid of a call that succeeded exactly when the call covers it. -/
theorem points_of_make :
    (∀ {K : Type} [Scalar K] [DecimalText K] (s : Store K),
      (∀ profile distance direction,
        (∃ r s', ((kernel : Kernel K (StateM (Store K))).make (.extrude profile distance direction)).run.run s =
          (.ok r, s')) ↔
        profile.circles ≠ [] ∧
        (∀ c ∈ profile.circles, (Scalar.isFinite c.radius = true ∧ 0 < c.radius) ∧
          Scalar.isFinite c.center.x = true ∧ Scalar.isFinite c.center.y = true) ∧
        Scalar.isFinite distance = true ∧ 0 < distance) ∧
      ∀ size centering,
        (∃ r s', ((kernel : Kernel K (StateM (Store K))).make (.createBox size centering)).run.run s = (.ok r, s')) ↔
        (Scalar.isFinite size.x = true ∧ 0 < size.x) ∧ (Scalar.isFinite size.y = true ∧ 0 < size.y) ∧
        Scalar.isFinite size.z = true ∧ 0 < size.z) ∧
    ∀ [DecimalText ℝ] (s s' : Store ℝ) (call : KernelCall ℝ) (r : SolidRef),
      ((kernel : Kernel ℝ (StateM (Store ℝ))).make call).run.run s = (.ok r, s') →
      ∀ p, ∃ inside, s'.contains r p = .ok inside ∧ (inside = true ↔ call.Covers s p) := by
  refine ⟨fun s => ⟨s.run_extrude_isOk_iff, s.run_createBox_isOk_iff⟩, ?_⟩
  intro _ s s' call r h p
  rw [run_kernel_make] at h
  obtain ⟨solid, hmade, hholds⟩ := exists_of_make_eq_ok h
  exact ⟨solid.contains p, contains_of_find hholds.find_eq p, contains_made_iff hmade⟩

/-- Two pegs of different width that reach down along the `x` axis from a plane in front of the origin. -/
noncomputable def twoPegs : KernelCall ℝ := .extrude ⟨.yz, 1, [⟨⟨0, 0⟩, 5⟩, ⟨⟨6, 0⟩, 1⟩]⟩ 7 .negative

theorem points_of_make_twoPegs : ∃ _ : DecimalText ℝ, ∃ r s',
    ((kernel : Kernel ℝ (StateM (Store ℝ))).make twoPegs).run.run (empty ⟨1, 0⟩ unaryNames) = (.ok r, s') ∧
      s'.contains r ⟨-6, 3, 4⟩ = .ok true ∧ s'.contains r ⟨-6, 6, 1⟩ = .ok true ∧
      s'.contains r ⟨-6, 6, 2⟩ = .ok false ∧ s'.contains r ⟨2, 0, 0⟩ = .ok false := by
  let text : DecimalText ℝ := ⟨fun _ => ""⟩
  obtain ⟨hmake, hpoints⟩ := points_of_make
  obtain ⟨r, s', h⟩ := ((hmake (empty ⟨1, 0⟩ unaryNames)).1 ⟨.yz, 1, [⟨⟨(0 : ℝ), 0⟩, 5⟩, ⟨⟨6, 0⟩, 1⟩]⟩ 7 .negative).2
    ⟨by simp, by simp, by simp⟩
  have hpoint (p : Vec3 ℝ) (inside : Bool) (hp : inside = true ↔ twoPegs.Covers (empty ⟨1, 0⟩ unaryNames) p) :
      s'.contains r p = .ok inside := by
    obtain ⟨inside', hr, hp'⟩ := hpoints _ s' twoPegs r h p
    rw [hr, Bool.eq_iff_iff.2 (hp'.trans hp.symm)]
  have hcovers (p : Vec3 ℝ) : twoPegs.Covers (empty ⟨1, 0⟩ unaryNames) p ↔
      (-6 ≤ p.x ∧ p.x ≤ 1) ∧ (p.y ^ 2 + p.z ^ 2 ≤ 5 ^ 2 ∨ (p.y - 6) ^ 2 + p.z ^ 2 ≤ 1) := by
    have hlow : (1 : ℝ) + -7 = -6 := by norm_num
    simp [twoPegs, KernelCall.Covers, Direction.span, Plane.toLocal, hlow]
  refine ⟨text, r, s', h, hpoint _ true ?_, hpoint _ true ?_, hpoint _ false ?_, hpoint _ false ?_⟩ <;>
    rw [hcovers] <;> norm_num

end Store

end SolidDrawing
