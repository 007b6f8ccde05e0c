import SolidDrawing.Proofs.Exact
import SolidDrawing.Proofs.StoreRuns
import SolidDrawing.Proofs.Tree

/-!
# Points of the solids that a kernel makes

The points of a box, of a sweep, of a moved solid and of what several tools leave, as inequalities between coordinates.
The solid of a plan is its base less its tools (`Plan.tree_eq_foldl`), so that these are the points of a plan as well.
-/

namespace SolidDrawing

/-! ### Boxes -/

/-- The values along an edge of length `s` of a new box. -/
def Centering.range (centered : Bool) (s : ℝ) : Set ℝ := if centered then Set.Icc (-s / 2) (s / 2) else Set.Icc 0 s

private theorem mem_range_iff {centered : Bool} {s x : ℝ} : x ∈ Centering.range centered s ↔
    (if centered then -(s * (1 / 2)) else 0) ≤ x ∧ x ≤ (if centered then -(s * (1 / 2)) else 0) + s := by
  cases centered with
  | false => simp [Centering.range]
  | true =>
    simp only [Centering.range, if_true, Set.mem_Icc]
    constructor <;> rintro ⟨h, h'⟩ <;> constructor <;> linarith

theorem Box.contains_ofCorners_add {corner size p : Vec3 ℝ} (h : size.isPositive = true) :
    (Box.ofCorners corner (corner + size)).contains p = true ↔ (corner.x ≤ p.x ∧ p.x ≤ corner.x + size.x) ∧
      (corner.y ≤ p.y ∧ p.y ≤ corner.y + size.y) ∧ corner.z ≤ p.z ∧ p.z ≤ corner.z + size.z := by
  obtain ⟨hx, hy, hz⟩ := Vec3.isPositive_iff.1 h
  simp [Box.contains_iff, ofCorners, Vec3.lower, Vec3.upper, hx.le, hy.le, hz.le]

theorem Box.contains_minCorner {c : Centering} {size p : Vec3 ℝ} (h : size.isPositive = true) :
    (Box.ofCorners (c.minCorner size) (c.minCorner size + size)).contains p = true ↔
      p.x ∈ Centering.range c.xy size.x ∧ p.y ∈ Centering.range c.xy size.y ∧ p.z ∈ Centering.range c.z size.z := by
  rw [Box.contains_ofCorners_add h, mem_range_iff, mem_range_iff, mem_range_iff]
  simp [Centering.minCorner, Vec3.scale]

/-! ### Sweeps -/

theorem Direction.span_symmetric_mul_two (d : ℝ) : symmetric.span (d * 2) = (-d, d) := by
  simp [span, neg_div]

namespace Store

/-- A sweep has a cylinder for each circle. -/
theorem contains_swept {K : Type} [Scalar K] (profile : Profile K) (distance : K) (direction : Direction)
    (p : Vec3 K) : (swept profile distance direction).contains p = profile.circles.any fun c =>
      Solid.cylinderContains profile.plane
        (profile.plane.toWorld c.center
          (profile.offset + ((direction.span distance).1 + (direction.span distance).2) / 2))
        c.radius (((direction.span distance).2 - (direction.span distance).1) / 2) p := by
  rw [swept]
  simp only
  split
  · rename_i c h
    simp [h]
  · simp [List.any_map, Function.comp_def]

/-- The points of a sweep lie between its two ends, and above or below a circle. -/
theorem contains_swept_iff {profile : Profile ℝ} {distance : ℝ} {direction : Direction} {p : Vec3 ℝ} :
    (swept profile distance direction).contains p = true ↔
      (profile.offset + (direction.span distance).1 ≤ profile.plane.offsetOf p ∧
        profile.plane.offsetOf p ≤ profile.offset + (direction.span distance).2) ∧
      ∃ c ∈ profile.circles, ((profile.plane.toLocal p).x - c.center.x) ^ 2 +
        ((profile.plane.toLocal p).y - c.center.y) ^ 2 ≤ c.radius ^ 2 := by
  rw [contains_swept, List.any_eq_true]
  simp only [Solid.cylinderContains_iff, Plane.offsetOf_sub, Plane.normSq_toLocal_sub, Plane.offsetOf_toWorld,
    Plane.toLocal_toWorld, ← sq]
  obtain ⟨lo, hi⟩ := direction.span distance
  -- a cylinder is given by its middle, a sweep by its two ends
  have hmiddle : |profile.plane.offsetOf p - (profile.offset + (lo + hi) / 2)| ≤ (hi - lo) / 2 ↔
      profile.offset + lo ≤ profile.plane.offsetOf p ∧ profile.plane.offsetOf p ≤ profile.offset + hi := by
    rw [abs_le]
    constructor <;> rintro ⟨h, h'⟩ <;> constructor <;> linarith
  simp only [hmiddle]
  constructor
  · rintro ⟨c, hc, hspan, hradius⟩
    exact ⟨hspan, c, hc, hradius⟩
  · rintro ⟨hspan, c, hc, hradius⟩
    exact ⟨c, hc, hspan, hradius⟩

end Store

/-! ### Moved solids -/

namespace Solid

theorem contains_translated (s : Solid ℝ) (offset p : Vec3 ℝ) :
    (s.translated offset).contains p = s.contains (p - offset) := by
  induction s with
  | cuboid box =>
    rw [translated_cuboid, contains_cuboid, contains_cuboid, Bool.eq_iff_iff, Box.contains_iff, Box.contains_iff]
    simp [Box.translated, le_sub_iff_add_le]
  | cylinder plane center radius halfLength =>
    rw [translated_cylinder, contains_cylinder, contains_cylinder, cylinderContains, cylinderContains,
      Vec3.sub_add_eq_sub_sub_swap]
  | union parts ih =>
    rw [translated_union, contains_union, contains_union, List.any_map]
    rw [Bool.eq_iff_iff, List.any_eq_true, List.any_eq_true]
    refine exists_congr fun part => and_congr_right fun hpart => ?_
    rw [Function.comp_apply, ih part hpart]
  | difference target tool target_ih tool_ih => simp [target_ih, tool_ih]

/-- What is left of a solid when tools are taken away one after the other. -/
theorem contains_foldl_difference {K : Type} [Scalar K] {tools : List (Solid K)} {s : Solid K} {p : Vec3 K} :
    (tools.foldl .difference s).contains p = true ↔
      s.contains p = true ∧ ∀ tool ∈ tools, tool.contains p = false := by
  induction tools generalizing s with
  | nil => simp
  | cons tool tools ih => simp [ih, and_assoc]

end Solid

end SolidDrawing
