import SolidDrawing.Proofs.Exact
import SolidDrawing.Proofs.Tree

/-!
# Points and boxes of solids

Whether a solid contains a point depends on the boxes and cylinders that it is put together from, and on nothing else
about the point (`Solid.contains_congr`). The box around a solid holds all its points (`Solid.contains_bounds`): that of
a box or a cylinder does, and boxes only grow when solids are joined.
-/

namespace SolidDrawing

/-! ### Boxes -/

private theorem mem_side {u c e : ℝ} (h : |u - c| ≤ |e|) : min (c - e) (c + e) ≤ u ∧ u ≤ max (c - e) (c + e) := by
  obtain ⟨hlo, hhi⟩ := abs_le.1 h
  rcases abs_cases e with ⟨he, -⟩ | ⟨he, -⟩
  · exact ⟨(min_le_left _ _).trans (by linarith), le_trans (by linarith) (le_max_right _ _)⟩
  · exact ⟨(min_le_right _ _).trans (by linarith), le_trans (by linarith) (le_max_left _ _)⟩

namespace Box

theorem contains_union_left {a : Box ℝ} {p : Vec3 ℝ} (h : a.contains p = true) (b : Box ℝ) :
    (a.union b).contains p = true := by
  rw [contains_iff] at h ⊢
  obtain ⟨⟨hx, hx'⟩, ⟨hy, hy'⟩, hz, hz'⟩ := h
  simp [union, Vec3.lower, Vec3.upper, hx, hx', hy, hy', hz, hz']

theorem contains_union_right (a : Box ℝ) {b : Box ℝ} {p : Vec3 ℝ} (h : b.contains p = true) :
    (a.union b).contains p = true := by
  rw [contains_iff] at h ⊢
  obtain ⟨⟨hx, hx'⟩, ⟨hy, hy'⟩, hz, hz'⟩ := h
  simp [union, Vec3.lower, Vec3.upper, hx, hx', hy, hy', hz, hz']

/-- The box between two corners that lie opposite each other around a center. -/
theorem contains_ofCorners_sub_add {center extent p : Vec3 ℝ} (hx : |p.x - center.x| ≤ |extent.x|)
    (hy : |p.y - center.y| ≤ |extent.y|) (hz : |p.z - center.z| ≤ |extent.z|) :
    (ofCorners (center - extent) (center + extent)).contains p = true :=
  contains_iff.2 ⟨mem_side hx, mem_side hy, mem_side hz⟩

end Box

namespace Solid

/-! ### Primitives -/

section

variable {K : Type} [Scalar K]

/-- Points that are told apart by no box and no cylinder of a solid are not told apart by the solid. -/
theorem contains_congr {s : Solid K} {p q : Vec3 K} (h : ∀ part ∈ s.primitives, part.contains p = part.contains q) :
    s.contains p = s.contains q := by
  induction s with
  | cuboid box => exact h _ (by simp)
  | cylinder plane center radius halfLength => exact h _ (by simp)
  | union parts ih =>
    rw [primitives_union] at h
    rw [contains_union, contains_union, Bool.eq_iff_iff, List.any_eq_true, List.any_eq_true]
    refine exists_congr fun part => and_congr_right fun hpart => ?_
    rw [ih part hpart fun primitive hprimitive => h primitive (List.mem_flatMap.2 ⟨part, hpart, hprimitive⟩)]
  | difference target tool iht ihu =>
    rw [primitives_difference, List.forall_mem_append] at h
    rw [contains_difference, contains_difference, iht h.1, ihu h.2]

theorem exists_primitive_of_contains {s : Solid K} {p : Vec3 K} (h : s.contains p = true) :
    ∃ part ∈ s.primitives, part.contains p = true := by
  induction s with
  | cuboid box => exact ⟨_, by simp, h⟩
  | cylinder plane center radius halfLength => exact ⟨_, by simp, h⟩
  | union parts ih =>
    rw [contains_union, List.any_eq_true] at h
    obtain ⟨part, hpart, hp⟩ := h
    obtain ⟨primitive, hprimitive, hp⟩ := ih part hpart hp
    exact ⟨primitive, by rw [primitives_union]; exact List.mem_flatMap.2 ⟨part, hpart, hprimitive⟩, hp⟩
  | difference target tool iht _ =>
    rw [contains_difference, Bool.and_eq_true] at h
    obtain ⟨primitive, hprimitive, hp⟩ := iht h.1
    exact ⟨primitive, by simp [hprimitive], hp⟩

/-! ### Bounds -/

@[simp] theorem bounds_cuboid (box : Box K) : (cuboid box).bounds = box := by simp [bounds]

@[simp] theorem bounds_cylinder (plane : Plane) (center : Vec3 K) (radius halfLength : K) :
    (cylinder plane center radius halfLength).bounds = cylinderBounds plane center radius halfLength := by
  simp [bounds]

@[simp] theorem bounds_difference (target tool : Solid K) : (difference target tool).bounds = target.bounds := by
  simp [bounds]

@[simp] theorem bounds_union_nil : (union ([] : List (Solid K))).bounds = .ofCorners .zero .zero := by
  simp [bounds, boundsAll]

@[simp] theorem bounds_union_cons (part : Solid K) (rest : List (Solid K)) :
    (union (part :: rest)).bounds = rest.foldl (fun box other => box.union other.bounds) part.bounds := by
  rw [bounds, boundsAll]
  generalize part.bounds = box
  induction rest generalizing box with
  | nil => simp [boundsFrom]
  | cons other rest ih => rw [boundsFrom, ih, List.foldl_cons]

end

private theorem cylinderBounds_contains {plane : Plane} {center : Vec3 ℝ} {radius halfLength : ℝ} {p : Vec3 ℝ}
    (h : cylinderContains plane center radius halfLength p = true) :
    (cylinderBounds plane center radius halfLength).contains p = true := by
  obtain ⟨halong, hradial⟩ := cylinderContains_iff.1 h
  have halong := halong.trans (le_abs_self halfLength)
  have hleft {u v : ℝ} (h : u * u + v * v ≤ radius * radius) : |u| ≤ |radius| :=
    abs_le_iff_mul_self_le.2 (by nlinarith [mul_self_nonneg v])
  have hright {u v : ℝ} (h : u * u + v * v ≤ radius * radius) : |v| ≤ |radius| :=
    abs_le_iff_mul_self_le.2 (by nlinarith [mul_self_nonneg u])
  rw [cylinderBounds]
  cases plane with
  | xy =>
    rw [Plane.offsetOf_xy] at halong
    refine Box.contains_ofCorners_sub_add ?_ ?_ ?_
    · simpa [Plane.normal, Vec3.scale, Plane.toLocal] using hleft hradial
    · simpa [Plane.normal, Vec3.scale, Plane.toLocal] using hright hradial
    · simpa [Plane.normal, Vec3.scale] using halong
  | yz =>
    rw [Plane.offsetOf_yz] at halong
    refine Box.contains_ofCorners_sub_add ?_ ?_ ?_
    · simpa [Plane.normal, Vec3.scale] using halong
    · simpa [Plane.normal, Vec3.scale, Plane.toLocal] using hleft hradial
    · simpa [Plane.normal, Vec3.scale, Plane.toLocal] using hright hradial
  | xz =>
    rw [Plane.offsetOf_xz] at halong
    refine Box.contains_ofCorners_sub_add ?_ ?_ ?_
    · simpa [Plane.normal, Vec3.scale, Plane.toLocal] using hleft hradial
    · simpa [Plane.normal, Vec3.scale] using halong
    · simpa [Plane.normal, Vec3.scale, Plane.toLocal] using hright hradial

private theorem foldl_union_contains {parts : List (Solid ℝ)} {box : Box ℝ} {p : Vec3 ℝ}
    (h : box.contains p = true ∨ ∃ part ∈ parts, part.bounds.contains p = true) :
    (parts.foldl (fun box other => box.union other.bounds) box).contains p = true := by
  induction parts generalizing box with
  | nil => simpa using h
  | cons part rest ih =>
    rw [List.foldl_cons]
    refine ih ?_
    rw [List.exists_mem_cons_iff] at h
    rcases h with h | h | h
    · exact .inl (Box.contains_union_left h _)
    · exact .inl (Box.contains_union_right _ h)
    · exact .inr h

/-- The box around a solid holds all its points. -/
theorem contains_bounds {s : Solid ℝ} {p : Vec3 ℝ} (h : s.contains p = true) : s.bounds.contains p = true := by
  induction s with
  | cuboid box => simpa using h
  | cylinder plane center radius halfLength =>
    rw [bounds_cylinder]
    exact cylinderBounds_contains (by simpa using h)
  | union parts ih =>
    rw [contains_union, List.any_eq_true] at h
    obtain ⟨part, hpart, hp⟩ := h
    have hbounds := ih part hpart hp
    cases parts with
    | nil => cases hpart
    | cons first rest =>
      rw [bounds_union_cons]
      refine foldl_union_contains ?_
      rcases List.mem_cons.1 hpart with rfl | hpart
      · exact .inl hbounds
      · exact .inr ⟨part, hpart, hbounds⟩
  | difference target tool iht _ =>
    rw [contains_difference, Bool.and_eq_true] at h
    rw [bounds_difference]
    exact iht h.1

end Solid

end SolidDrawing
