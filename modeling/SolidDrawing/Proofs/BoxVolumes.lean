import SolidDrawing.Proofs.Extents
import SolidDrawing.Proofs.Grids
import SolidDrawing.Proofs.Sections

/-!
# Volumes of solids made of boxes

With exact arithmetic the volume of a solid that is put together from boxes is the measure of its points, and the sum of
the cells that lie in it, in the grid that the sides of the boxes span. Between two neighbouring sides along an axis the
solid looks the same (`Solid.Divides`), and so it does in the finer grid that `Solid.volume` uses, however fine it is.
-/

namespace SolidDrawing.Solid

open MeasureTheory (lintegral)

/-- All parts of the solid are boxes. -/
def OfBoxes (s : Solid ℝ) : Prop := ∀ part ∈ s.primitives, ∃ box, part = cuboid box

theorem ofBoxes_cuboid (box : Box ℝ) : (cuboid box).OfBoxes := by simp [OfBoxes]

theorem OfBoxes.difference {s t : Solid ℝ} (hs : s.OfBoxes) (ht : t.OfBoxes) : (difference s t).OfBoxes := by
  intro part hpart
  rw [primitives_difference, List.mem_append] at hpart
  exact hpart.elim (hs part) (ht part)

theorem OfBoxes.translated {s : Solid ℝ} (hs : s.OfBoxes) (offset : Vec3 ℝ) : (s.translated offset).OfBoxes := by
  intro part hpart
  rw [primitives_translated, List.mem_map] at hpart
  obtain ⟨other, hother, rfl⟩ := hpart
  obtain ⟨box, rfl⟩ := hs other hother
  exact ⟨_, translated_cuboid offset box⟩

/-- Where the boxes of a solid begin and end along an axis. -/
noncomputable def sides (axis : Axis) (s : Solid ℝ) : List ℝ :=
  s.primitives.flatMap fun
    | cuboid box => [axis.plane.offsetOf box.min, axis.plane.offsetOf box.max]
    | _ => []

/-- The cells between neighbouring sides along an axis. -/
noncomputable def cells (axis : Axis) (s : Solid ℝ) : List (Cell ℝ) :=
  Cell.between ((s.sides axis).toFinset.sort (· ≤ ·))

open Classical in
/-- The sum of the volumes of the cells that lie in the solid. -/
noncomputable def cellVolume (s : Solid ℝ) : ℝ :=
  ((s.cells .x).map fun a => ((s.cells .y).map fun b => ((s.cells .z).map fun c =>
    if a.interior ×ˢ b.interior ×ˢ c.interior ⊆ s.region then a.width * b.width * c.width else 0).sum).sum).sum

variable {s : Solid ℝ}

theorem mem_sides {axis : Axis} {b : ℝ} : b ∈ s.sides axis ↔
    ∃ box, cuboid box ∈ s.primitives ∧ (b = axis.plane.offsetOf box.min ∨ b = axis.plane.offsetOf box.max) := by
  rw [sides, List.mem_flatMap]
  constructor
  · rintro ⟨part, hpart, hb⟩
    cases part with
    | cuboid box => exact ⟨box, hpart, by simpa using hb⟩
    | _ => simp at hb
  · rintro ⟨box, hbox, hb⟩
    exact ⟨cuboid box, hbox, by simpa using hb⟩

/-! ### Sides that are not passed -/

/-- No side of the solid lies between the two values along the axis. -/
def SameSide (s : Solid ℝ) (axis : Axis) (t u : ℝ) : Prop :=
  ∀ b ∈ s.sides axis, (b ≤ t ↔ b ≤ u) ∧ (t ≤ b ↔ u ≤ b)

theorem sameSide_refl (s : Solid ℝ) (axis : Axis) (t : ℝ) : s.SameSide axis t t := fun _ _ => ⟨Iff.rfl, Iff.rfl⟩

private theorem box_contains_iff {box : Box ℝ} {p : Vec3 ℝ} : box.contains p = true ↔ ∀ axis : Axis,
    axis.plane.offsetOf box.min ≤ axis.plane.offsetOf p ∧ axis.plane.offsetOf p ≤ axis.plane.offsetOf box.max := by
  rw [Box.contains_iff]
  constructor
  · rintro ⟨hx, hy, hz⟩ axis
    cases axis <;> simpa [Axis.plane]
  · intro h
    exact ⟨by simpa [Axis.plane] using h .x, by simpa [Axis.plane] using h .y, by simpa [Axis.plane] using h .z⟩

/-- A solid of boxes looks the same until one of its sides is passed. -/
theorem OfBoxes.contains_congr (hs : s.OfBoxes) {p q : Vec3 ℝ}
    (h : ∀ axis : Axis, s.SameSide axis (axis.plane.offsetOf p) (axis.plane.offsetOf q)) :
    s.contains p = s.contains q := by
  refine Solid.contains_congr fun part hpart => ?_
  obtain ⟨box, rfl⟩ := hs part hpart
  rw [contains_cuboid, contains_cuboid, Bool.eq_iff_iff, box_contains_iff, box_contains_iff]
  refine forall_congr' fun axis => ?_
  rw [(h axis _ (mem_sides.2 ⟨box, hpart, .inl rfl⟩)).1, (h axis _ (mem_sides.2 ⟨box, hpart, .inr rfl⟩)).2]

/-! ### Grids that divide a solid -/

/-- Along the axis, no side of the solid lies inside a cell, and no point of it beyond the edges. -/
structure Divides (s : Solid ℝ) (axis : Axis) (edges : List ℝ) : Prop where
  sorted : edges.Pairwise (· ≤ ·)
  sides : ∀ c ∈ Cell.between edges, ∀ b ∈ s.sides axis, b ∉ c.interior
  beyond : ∀ p, (∀ e ∈ edges, e < axis.plane.offsetOf p) ∨ (∀ e ∈ edges, axis.plane.offsetOf p < e) →
    s.contains p = false

theorem Divides.sameSide {axis : Axis} {edges : List ℝ} (h : s.Divides axis edges) {c : Cell ℝ}
    (hc : c ∈ Cell.between edges) {t u : ℝ} (ht : t ∈ c.interior) (hu : u ∈ c.interior) : s.SameSide axis t u :=
  fun b hb => Cell.le_iff_of_mem_interior (h.sides c hc b hb) ht hu

private theorem offsetOf_toWorld_of_ne {axis other : Axis} (h : other ≠ axis) (q : Vec2 ℝ) (t u : ℝ) :
    other.plane.offsetOf (axis.plane.toWorld q t) = other.plane.offsetOf (axis.plane.toWorld q u) := by
  cases axis <;> cases other <;> simp_all [Axis.plane, Plane.toWorld]

/-- The solid looks the same all over a cell. -/
theorem Divides.contains_eq_middle {axis : Axis} {edges : List ℝ} (h : s.Divides axis edges) (hs : s.OfBoxes)
    {c : Cell ℝ} (hc : c ∈ Cell.between edges) {t : ℝ} (ht : t ∈ c.interior) (q : Vec2 ℝ) :
    s.contains (axis.plane.toWorld q t) = s.contains (axis.plane.toWorld q c.middle) := by
  refine hs.contains_congr fun other => ?_
  -- only the coordinate along the axis differs
  by_cases hother : other = axis
  · subst hother
    rw [Plane.offsetOf_toWorld, Plane.offsetOf_toWorld]
    exact h.sameSide hc ht (Cell.middle_mem_interior (Cell.width_pos_of_mem_interior ht))
  · rw [offsetOf_toWorld_of_ne hother q t c.middle]
    exact s.sameSide_refl other _

theorem Divides.contains_eq_false {axis : Axis} {edges : List ℝ} (h : s.Divides axis edges) {t : ℝ}
    (ht : (∀ e ∈ edges, e < t) ∨ (∀ e ∈ edges, t < e)) (q : Vec2 ℝ) : s.contains (axis.plane.toWorld q t) = false :=
  h.beyond _ (by rwa [Plane.offsetOf_toWorld])

theorem OfBoxes.exists_side_le (hs : s.OfBoxes) {p : Vec3 ℝ} (hp : s.contains p = true) (axis : Axis) :
    (∃ b ∈ s.sides axis, b ≤ axis.plane.offsetOf p) ∧ ∃ b ∈ s.sides axis, axis.plane.offsetOf p ≤ b := by
  obtain ⟨part, hpart, hp⟩ := exists_primitive_of_contains hp
  obtain ⟨box, rfl⟩ := hs part hpart
  rw [contains_cuboid, box_contains_iff] at hp
  exact ⟨⟨_, mem_sides.2 ⟨box, hpart, .inl rfl⟩, (hp axis).1⟩, ⟨_, mem_sides.2 ⟨box, hpart, .inr rfl⟩, (hp axis).2⟩⟩

/-- The grid of the sides themselves. -/
theorem OfBoxes.divides_sides (hs : s.OfBoxes) (axis : Axis) :
    s.Divides axis ((s.sides axis).toFinset.sort (· ≤ ·)) where
  sorted := Finset.pairwise_sort ..
  sides := by
    intro c hc b hb
    exact Cell.notMem_interior (Finset.pairwise_sort ..) hc (by simpa using hb)
  beyond := by
    intro p h
    by_contra hp
    obtain ⟨⟨b, hb, hle⟩, b', hb', hle'⟩ := hs.exists_side_le (by simpa using hp) axis
    rcases h with h | h
    · exact absurd (h b' (by simpa using hb')) (not_lt.2 hle')
    · exact absurd (h b (by simpa using hb)) (not_lt.2 hle)

/-- A refined grid between two values that the solid lies between. -/
theorem divides_edges {axis : Axis} {breaks : List ℝ} {lo hi : ℝ} (samples : Nat) (hlo : lo ≤ hi)
    (hbreaks : ∀ b ∈ s.sides axis, b ∈ breaks)
    (hin : ∀ p, s.contains p = true → lo ≤ axis.plane.offsetOf p ∧ axis.plane.offsetOf p ≤ hi) :
    s.Divides axis (Cell.edges breaks lo hi samples) where
  sorted := Cell.edges_sorted ..
  sides := fun c hc b hb => Cell.notMem_interior_of_mem_breaks hlo hc (hbreaks b hb)
  beyond := by
    intro p h
    by_contra hp
    obtain ⟨hle, hle'⟩ := hin p (by simpa using hp)
    rcases h with h | h
    · exact absurd (h hi Cell.hi_mem_edges) (not_lt.2 hle')
    · exact absurd (h lo Cell.lo_mem_edges) (not_lt.2 hle)

/-- A solid that is flat along the axis needs no cells. -/
theorem divides_singleton {axis : Axis} {lo hi : ℝ} (hlo : hi ≤ lo)
    (hin : ∀ p, s.contains p = true → lo ≤ axis.plane.offsetOf p ∧ axis.plane.offsetOf p ≤ hi) :
    s.Divides axis [lo] where
  sorted := List.pairwise_singleton ..
  sides := by simp
  beyond := by
    intro p h
    by_contra hp
    obtain ⟨hle, hle'⟩ := hin p (by simpa using hp)
    simp only [List.forall_mem_singleton] at h
    rcases h with h | h <;> linarith

/-! ### Integrals over cells -/

theorem line_congr {x x' y y' : ℝ} (h : ∀ z, s.contains ⟨x, y, z⟩ = s.contains ⟨x', y', z⟩) :
    s.line x y = s.line x' y' := by
  ext z
  rw [mem_line, mem_line, h]

theorem line_eq_empty {x y : ℝ} (h : ∀ z, s.contains ⟨x, y, z⟩ = false) : s.line x y = ∅ := by
  ext z
  simp [mem_line, h]

theorem OfBoxes.lintegral_x (hs : s.OfBoxes) {edges : List ℝ} (h : s.Divides .x edges) :
    ∫⁻ x, ∫⁻ y, MeasureTheory.volume (s.line x y) = ((Cell.between edges).map fun c =>
      (∫⁻ y, MeasureTheory.volume (s.line c.middle y)) * ENNReal.ofReal c.width).sum := by
  refine Cell.lintegral_eq_sum_between h.sorted (fun c hc x hx => ?_) fun x hx => ?_
  · exact MeasureTheory.lintegral_congr fun y =>
      congrArg _ (line_congr fun z => h.contains_eq_middle hs hc hx ⟨y, z⟩)
  · have hempty (y : ℝ) : s.line x y = ∅ := line_eq_empty fun z => h.contains_eq_false hx ⟨y, z⟩
    show ∫⁻ y, MeasureTheory.volume (s.line x y) = 0
    simp only [hempty, MeasureTheory.measure_empty, MeasureTheory.lintegral_zero]

theorem OfBoxes.lintegral_y (hs : s.OfBoxes) {edges : List ℝ} (h : s.Divides .y edges) (x : ℝ) :
    ∫⁻ y, MeasureTheory.volume (s.line x y) = ((Cell.between edges).map fun c =>
      MeasureTheory.volume (s.line x c.middle) * ENNReal.ofReal c.width).sum := by
  refine Cell.lintegral_eq_sum_between h.sorted (fun c hc y hy => ?_) fun y hy => ?_
  · exact congrArg _ (line_congr fun z => h.contains_eq_middle hs hc hy ⟨x, z⟩)
  · rw [line_eq_empty fun z => h.contains_eq_false hy ⟨x, z⟩, MeasureTheory.measure_empty]

theorem OfBoxes.volume_line_eq_sum (hs : s.OfBoxes) {edges : List ℝ} (h : s.Divides .z edges) (x y : ℝ) :
    MeasureTheory.volume (s.line x y) = ((Cell.between edges).map fun c =>
      (if s.contains ⟨x, y, c.middle⟩ then 1 else 0) * ENNReal.ofReal c.width).sum := by
  have hmeas : MeasurableSet (s.line x y) :=
    measurable_prodMk_left (measurable_prodMk_left s.measurableSet_region)
  have hindicator : (s.line x y).indicator 1 = fun z => if s.contains ⟨x, y, z⟩ then (1 : ENNReal) else 0 := by
    ext z
    cases hz : s.contains ⟨x, y, z⟩ with
    | true => exact Set.indicator_of_mem (mem_line.2 hz) 1
    | false => exact Set.indicator_of_notMem (by simp [mem_line, hz]) 1
  rw [← MeasureTheory.lintegral_indicator_one hmeas, hindicator]
  refine Cell.lintegral_eq_sum_between h.sorted (fun c hc z hz => ?_) fun z hz => ?_
  · have hmiddle : s.contains ⟨x, y, z⟩ = s.contains ⟨x, y, c.middle⟩ := h.contains_eq_middle hs hc hz ⟨x, y⟩
    simp only [hmiddle]
  · have hempty : s.contains ⟨x, y, z⟩ = false := h.contains_eq_false hz ⟨x, y⟩
    simp [hempty]

/-- The volume of a solid of boxes, in any grid that divides it. -/
theorem OfBoxes.volume_region_eq_sum (hs : s.OfBoxes) {xs ys : List ℝ} (hx : s.Divides .x xs) (hy : s.Divides .y ys) :
    MeasureTheory.volume s.region = ((Cell.between xs).map fun a => ((Cell.between ys).map fun b =>
      MeasureTheory.volume (s.line a.middle b.middle) * ENNReal.ofReal b.width).sum * ENNReal.ofReal a.width).sum := by
  rw [volume_region, hs.lintegral_x hx]
  simp only [hs.lintegral_y hy]

/-! ### The sides of a solid as breakpoints -/

section

variable {K : Type}

private theorem breaks_eq_flatMap {breaks : Solid K → List K}
    (hunion : ∀ parts, breaks (union parts) = parts.flatMap breaks)
    (hdifference : ∀ target tool, breaks (difference target tool) = breaks target ++ breaks tool) (s : Solid K) :
    breaks s = s.primitives.flatMap breaks := by
  induction s with
  | cuboid box => simp
  | cylinder plane center radius halfLength => simp
  | union parts ih =>
    rw [hunion, primitives_union, List.flatMap_assoc]
    exact List.flatMap_congr ih
  | difference target tool iht ihu =>
    rw [hdifference, primitives_difference, List.flatMap_append, ← iht, ← ihu]

variable [Scalar K]

@[simp] theorem breaksX_union (parts : List (Solid K)) : (union parts).breaksX = parts.flatMap breaksX := by
  rw [breaksX]
  induction parts with
  | nil => simp [breaksXAll]
  | cons part rest ih => simp [breaksXAll, ih]

@[simp] theorem breaksY_union (parts : List (Solid K)) : (union parts).breaksY = parts.flatMap breaksY := by
  rw [breaksY]
  induction parts with
  | nil => simp [breaksYAll]
  | cons part rest ih => simp [breaksYAll, ih]

/-- The breakpoints of a solid are those of its boxes and cylinders. -/
theorem mem_breaksX {s : Solid K} {b : K} : b ∈ s.breaksX ↔ ∃ part ∈ s.primitives, b ∈ part.breaksX := by
  rw [breaks_eq_flatMap breaksX_union (fun _ _ => by rw [breaksX]) s, List.mem_flatMap]

@[inherit_doc mem_breaksX]
theorem mem_breaksY {s : Solid K} {b : K} : b ∈ s.breaksY ↔ ∃ part ∈ s.primitives, b ∈ part.breaksY := by
  rw [breaks_eq_flatMap breaksY_union (fun _ _ => by rw [breaksY]) s, List.mem_flatMap]

end

theorem sides_x_subset : s.sides .x ⊆ s.breaksX := by
  intro b hb
  obtain ⟨box, hbox, hb⟩ := mem_sides.1 hb
  exact mem_breaksX.2 ⟨_, hbox, by simpa [breaksX, Axis.plane] using hb⟩

theorem sides_y_subset : s.sides .y ⊆ s.breaksY := by
  intro b hb
  obtain ⟨box, hbox, hb⟩ := mem_sides.1 hb
  exact mem_breaksY.2 ⟨_, hbox, by simpa [breaksY, Axis.plane] using hb⟩

/-! ### Volumes -/

theorem volume_region_cuboid (box : Box ℝ) : MeasureTheory.volume (cuboid box).region =
    ENNReal.ofReal box.size.x * (ENNReal.ofReal box.size.y * ENNReal.ofReal box.size.z) := by
  have hregion : (cuboid box).region =
      Set.Icc box.min.x box.max.x ×ˢ Set.Icc box.min.y box.max.y ×ˢ Set.Icc box.min.z box.max.z := by
    ext p
    rw [mem_region, contains_cuboid, Box.contains_iff]
    rfl
  rw [hregion]
  simp only [MeasureTheory.Measure.volume_eq_prod, MeasureTheory.Measure.prod_prod, Real.volume_Icc, Box.size,
    Vec3.sub_x, Vec3.sub_y, Vec3.sub_z]

theorem ofReal_integrate (s : Solid ℝ) {xs ys : List (Cell ℝ)} (hx : ∀ c ∈ xs, 0 ≤ c.width)
    (hy : ∀ c ∈ ys, 0 ≤ c.width) : ENNReal.ofReal (s.integrate xs ys) = (xs.map fun a => (ys.map fun b =>
      MeasureTheory.volume (s.line a.middle b.middle) * ENNReal.ofReal b.width).sum * ENNReal.ofReal a.width).sum := by
  have hlength (a b : Cell ℝ) : 0 ≤ Spans.length (s.spansAt a.middle b.middle) :=
    (spansAt_isNormal s a.middle b.middle).length_nonneg
  have hrow (a : Cell ℝ) : (ys.map fun b => Spans.length (s.spansAt a.middle b.middle) * a.width * b.width).sum =
      (ys.map fun b => Spans.length (s.spansAt a.middle b.middle) * b.width).sum * a.width := by
    simp only [← List.sum_map_mul_right, mul_right_comm]
  simp only [integrate_eq_sum, hrow]
  rw [Cell.ofReal_sum (fun a _ => Cell.sum_nonneg (fun b _ => hlength a b) hy) hx]
  simp only [Cell.ofReal_sum (fun b _ => hlength _ b) hy, volume_line]

/-- The columns of the grid for the volume of a solid; a flat solid has none. -/
def columns {K : Type} [Scalar K] (samples : Nat) (s : Solid K) : List (Cell K) :=
  if s.bounds.size.x ≤ 0 ∨ s.bounds.size.y ≤ 0 then []
  else Cell.between (Cell.edges s.breaksX s.bounds.min.x s.bounds.max.x samples)

/-- The rows of the grid for the volume of a solid. -/
def rows {K : Type} [Scalar K] (samples : Nat) (s : Solid K) : List (Cell K) :=
  Cell.between (Cell.edges s.breaksY s.bounds.min.y s.bounds.max.y samples)

theorem volume_eq_integrate (samples : Nat) (s : Solid ℝ) :
    s.volume samples = s.integrate (s.columns samples) (s.rows samples) := by
  rw [volume, columns, rows]
  split
  · rfl
  · rfl

private theorem columns_width_nonneg (samples : Nat) (s : Solid ℝ) : ∀ c ∈ s.columns samples, 0 ≤ c.width := by
  rw [columns]
  split
  · exact nofun
  · exact fun c hc => Cell.width_nonneg_of_mem_between (Cell.edges_sorted ..) hc

/-- The volume is what the rays through the middles of the cells find. -/
theorem ofReal_volume_eq_sum (samples : Nat) (s : Solid ℝ) : ENNReal.ofReal (s.volume samples) =
    ((s.columns samples).map fun a => ((s.rows samples).map fun b =>
      MeasureTheory.volume (s.line a.middle b.middle) * ENNReal.ofReal b.width).sum * ENNReal.ofReal a.width).sum := by
  rw [volume_eq_integrate]
  exact s.ofReal_integrate (s.columns_width_nonneg samples) fun c hc =>
    Cell.width_nonneg_of_mem_between (Cell.edges_sorted ..) hc

/-- Nothing is found in a solid that the rays through the middles of the cells do not meet. -/
theorem volume_eq_zero {samples : Nat} {s : Solid ℝ}
    (h : ∀ a ∈ s.columns samples, ∀ b ∈ s.rows samples, s.line a.middle b.middle = ∅) : s.volume samples = 0 := by
  refine le_antisymm (ENNReal.ofReal_eq_zero.1 ?_) (s.volume_nonneg samples)
  rw [ofReal_volume_eq_sum]
  refine List.sum_eq_zero fun column hcolumn => ?_
  obtain ⟨a, ha, rfl⟩ := List.mem_map.1 hcolumn
  rw [List.sum_eq_zero, zero_mul]
  intro term hterm
  obtain ⟨b, hb, rfl⟩ := List.mem_map.1 hterm
  rw [h a ha b hb, MeasureTheory.measure_empty, zero_mul]

/-- The volume of a solid of boxes in the grid of a solid around it, which has its sides among the breakpoints. -/
theorem OfBoxes.volume_region_eq_sum_grid (hs : s.OfBoxes) {whole : Solid ℝ} (hx : s.sides .x ⊆ whole.breaksX)
    (hy : s.sides .y ⊆ whole.breaksY) (hsub : ∀ p, s.contains p = true → whole.contains p = true) (samples : Nat) :
    MeasureTheory.volume s.region = ((whole.columns samples).map fun a => ((whole.rows samples).map fun b =>
      MeasureTheory.volume (s.line a.middle b.middle) * ENNReal.ofReal b.width).sum * ENNReal.ofReal a.width).sum := by
  have hbounds {p : Vec3 ℝ} (hp : s.contains p = true) := Box.contains_iff.1 (contains_bounds (hsub p hp))
  have hinx : ∀ p, s.contains p = true → whole.bounds.min.x ≤ Axis.x.plane.offsetOf p ∧
      Axis.x.plane.offsetOf p ≤ whole.bounds.max.x := fun p hp => by simpa [Axis.plane] using (hbounds hp).1
  have hiny : ∀ p, s.contains p = true → whole.bounds.min.y ≤ Axis.y.plane.offsetOf p ∧
      Axis.y.plane.offsetOf p ≤ whole.bounds.max.y := fun p hp => by simpa [Axis.plane] using (hbounds hp).2.1
  rw [columns]
  split
  case isTrue hflat =>
    -- all points lie in one plane: one edge is enough there, and makes no cells
    simp only [Box.size, Vec3.sub_x, Vec3.sub_y, Scalar.zero_real, sub_nonpos] at hflat
    rcases hflat with hflat | hflat
    · rw [hs.volume_region_eq_sum (divides_singleton hflat hinx) (hs.divides_sides .y)]
      simp
    · rw [hs.volume_region_eq_sum (hs.divides_sides .x) (divides_singleton hflat hiny)]
      simp
  case isFalse hsize =>
    simp only [Box.size, Vec3.sub_x, Vec3.sub_y, Scalar.zero_real, sub_nonpos, not_or, not_le] at hsize
    exact hs.volume_region_eq_sum (divides_edges samples hsize.1.le hx hinx)
      (divides_edges samples hsize.2.le hy hiny)

/-- What `Solid.volume` finds is the volume, however fine its grid is. -/
theorem OfBoxes.volume_region_eq_volume (hs : s.OfBoxes) (samples : Nat) :
    MeasureTheory.volume s.region = ENNReal.ofReal (s.volume samples) := by
  rw [ofReal_volume_eq_sum]
  exact hs.volume_region_eq_sum_grid sides_x_subset sides_y_subset (fun _ => id) samples

/-- A solid is found to be as large as boxes in it are, if they end where its parts end. -/
theorem OfBoxes.volume_region_le_volume (hs : s.OfBoxes) {whole : Solid ℝ} (hx : s.sides .x ⊆ whole.breaksX)
    (hy : s.sides .y ⊆ whole.breaksY) (hsub : ∀ p, s.contains p = true → whole.contains p = true) (samples : Nat) :
    MeasureTheory.volume s.region ≤ ENNReal.ofReal (whole.volume samples) := by
  have hline (x y : ℝ) : s.line x y ⊆ whole.line x y := fun z hz => mem_line.2 (hsub _ (mem_line.1 hz))
  rw [hs.volume_region_eq_sum_grid hx hy hsub samples, ofReal_volume_eq_sum]
  refine List.sum_le_sum fun a _ => mul_le_mul_left ?_ _
  exact List.sum_le_sum fun b _ => mul_le_mul_left (MeasureTheory.measure_mono (hline ..)) _

/-! ### Cells in the solid -/

theorem width_pos_of_mem_cells {axis : Axis} {c : Cell ℝ} (hc : c ∈ s.cells axis) : 0 < c.width :=
  Cell.width_pos_of_mem_between (Finset.sortedLT_sort _).pairwise hc

/-- A cell lies in the solid if its middle does. -/
theorem OfBoxes.interior_subset_iff (hs : s.OfBoxes) {a b c : Cell ℝ} (ha : a ∈ s.cells .x) (hb : b ∈ s.cells .y)
    (hc : c ∈ s.cells .z) : a.interior ×ˢ b.interior ×ˢ c.interior ⊆ s.region ↔
      s.contains ⟨a.middle, b.middle, c.middle⟩ = true := by
  have hmid {axis : Axis} {d : Cell ℝ} (hd : d ∈ s.cells axis) : d.middle ∈ d.interior :=
    Cell.middle_mem_interior (width_pos_of_mem_cells hd)
  constructor
  · exact fun h => mem_region.1 (h (Set.mk_mem_prod (hmid ha) (Set.mk_mem_prod (hmid hb) (hmid hc))))
  · rintro h ⟨x, y, z⟩ ⟨hx, hy, hz⟩
    rw [mem_region, hs.contains_congr fun axis => ?_]
    · exact h
    · cases axis with
      | x => simpa [Axis.plane] using (hs.divides_sides .x).sameSide ha hx (hmid ha)
      | y => simpa [Axis.plane] using (hs.divides_sides .y).sameSide hb hy (hmid hb)
      | z => simpa [Axis.plane] using (hs.divides_sides .z).sameSide hc hz (hmid hc)

/-- What the solid takes up of the cells that stand over one another, by their middles. -/
private noncomputable def pillar (s : Solid ℝ) (a b : Cell ℝ) : ℝ :=
  ((s.cells .z).map fun c => (if s.contains ⟨a.middle, b.middle, c.middle⟩ then 1 else 0) * c.width).sum

/-- What the pillars of a cell along the first axis take up. -/
private noncomputable def slab (s : Solid ℝ) (a : Cell ℝ) : ℝ := ((s.cells .y).map fun b => s.pillar a b * b.width).sum

private theorem OfBoxes.cellVolume_eq (hs : s.OfBoxes) :
    s.cellVolume = ((s.cells .x).map fun a => s.slab a * a.width).sum := by
  rw [cellVolume]
  refine congrArg List.sum (List.map_congr_left fun a ha => ?_)
  rw [slab, ← List.sum_map_mul_right]
  refine congrArg List.sum (List.map_congr_left fun b hb => ?_)
  rw [pillar, ← List.sum_map_mul_right, ← List.sum_map_mul_right]
  refine congrArg List.sum (List.map_congr_left fun c hc => ?_)
  simp only [hs.interior_subset_iff ha hb hc]
  split <;> ring

private theorem width_nonneg (s : Solid ℝ) (axis : Axis) : ∀ c ∈ s.cells axis, 0 ≤ c.width :=
  fun _ hc => (width_pos_of_mem_cells hc).le

private theorem count_nonneg (s : Solid ℝ) (p : Vec3 ℝ) : (0 : ℝ) ≤ if s.contains p then 1 else 0 := by
  split <;> norm_num

private theorem pillar_nonneg (s : Solid ℝ) (a b : Cell ℝ) : 0 ≤ s.pillar a b :=
  Cell.sum_nonneg (fun _ _ => s.count_nonneg _) (s.width_nonneg .z)

private theorem slab_nonneg (s : Solid ℝ) (a : Cell ℝ) : 0 ≤ s.slab a :=
  Cell.sum_nonneg (fun b _ => s.pillar_nonneg a b) (s.width_nonneg .y)

theorem OfBoxes.cellVolume_nonneg (hs : s.OfBoxes) : 0 ≤ s.cellVolume := by
  rw [hs.cellVolume_eq]
  exact Cell.sum_nonneg (fun a _ => s.slab_nonneg a) (s.width_nonneg .x)

private theorem OfBoxes.volume_line_eq_pillar (hs : s.OfBoxes) (a b : Cell ℝ) :
    MeasureTheory.volume (s.line a.middle b.middle) = ENNReal.ofReal (s.pillar a b) := by
  have hcount (p : Vec3 ℝ) :
      ENNReal.ofReal (if s.contains p then 1 else 0) = if s.contains p then 1 else 0 := by
    split <;> simp
  rw [hs.volume_line_eq_sum (hs.divides_sides .z), pillar,
    Cell.ofReal_sum (fun _ _ => s.count_nonneg _) (s.width_nonneg .z)]
  simp only [hcount]
  rfl

/-- The cells that lie in the solid make up its volume. -/
theorem OfBoxes.volume_region_eq_cellVolume (hs : s.OfBoxes) :
    MeasureTheory.volume s.region = ENNReal.ofReal s.cellVolume := by
  rw [hs.volume_region_eq_sum (hs.divides_sides .x) (hs.divides_sides .y), hs.cellVolume_eq,
    Cell.ofReal_sum (fun a _ => s.slab_nonneg a) (s.width_nonneg .x)]
  simp only [slab, Cell.ofReal_sum (fun b _ => s.pillar_nonneg _ b) (s.width_nonneg .y), hs.volume_line_eq_pillar]
  rfl

/-- With exact arithmetic the volume of a solid of boxes is that of the set of its points, and that of the cells between
the sides of its boxes that lie in it, whatever the number of samples. -/
theorem OfBoxes.volume_eq (hs : s.OfBoxes) (samples : Nat) :
    MeasureTheory.volume s.region = ENNReal.ofReal (s.volume samples) ∧ s.volume samples = s.cellVolume := by
  refine ⟨hs.volume_region_eq_volume samples, ?_⟩
  have h := (hs.volume_region_eq_volume samples).symm.trans hs.volume_region_eq_cellVolume
  exact (ENNReal.ofReal_eq_ofReal_iff (s.volume_nonneg samples) hs.cellVolume_nonneg).1 h

/-- A block with a corner cut away, by a box that reaches beyond it. -/
theorem volume_eq_notchedBlock :
    let s : Solid ℝ := difference (cuboid ⟨⟨0, 0, 0⟩, ⟨2, 2, 1⟩⟩) (cuboid ⟨⟨1, 1, 0⟩, ⟨3, 3, 1⟩⟩)
    s.OfBoxes ∧ MeasureTheory.volume s.region = ENNReal.ofReal (s.volume 0) ∧ s.volume 0 = s.volume 7 := by
  intro s
  have hs : s.OfBoxes := by
    intro part hpart
    simp only [s, primitives_difference, primitives_cuboid, List.mem_append, List.mem_singleton] at hpart
    rcases hpart with rfl | rfl
    · exact ⟨_, rfl⟩
    · exact ⟨_, rfl⟩
  obtain ⟨hregion, hcells⟩ := OfBoxes.volume_eq hs 0
  exact ⟨hs, hregion, hcells.trans (OfBoxes.volume_eq hs 7).2.symm⟩

end SolidDrawing.Solid
