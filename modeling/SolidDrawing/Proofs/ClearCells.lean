import SolidDrawing.Proofs.BoxVolumes

/-!
# Cells that are clear of curved walls

Flat walls that stand upright stand on edges of the grid, as far as it reaches. So a vertical line can be moved about in
a cell without passing one, and its spans are the same all over the cell (`Solid.spansAt_eq_middle`), unless the curved
wall of a cylinder is in the way: seen from above, the circle of a standing cylinder, or the rectangle that a lying one
takes up. What the solid takes up over such a cell is what the ray through the middle of the cell finds.
-/

namespace SolidDrawing

open MeasureTheory (Measure lintegral_indicator_const)

/-! ### Moving about in a cell -/

namespace Cell

variable {c d : Cell ℝ}

theorem measurableSet_interior (c : Cell ℝ) : MeasurableSet c.interior := measurableSet_Ioo

theorem volume_interior (c : Cell ℝ) : MeasureTheory.volume c.interior = ENNReal.ofReal c.width := by
  rw [interior, Real.volume_Ioo, start_real, stop_real]
  ring_nf

theorem isPreconnected_prod_interior (c d : Cell ℝ) : IsPreconnected (c.interior ×ˢ d.interior) :=
  isPreconnected_Ioo.prod isPreconnected_Ioo

/-- Inside a cell the distance from a point stays on one side of a bound, if the places at this distance lie outside. -/
theorem abs_sub_le_iff_of_mem_interior {m r t u : ℝ} (hlo : m - r ∉ c.interior) (hhi : m + r ∉ c.interior)
    (ht : t ∈ c.interior) (hu : u ∈ c.interior) : |t - m| ≤ r ↔ |u - m| ≤ r := by
  have hlower := (le_iff_of_mem_interior hlo ht hu).1
  have hupper := (le_iff_of_mem_interior hhi ht hu).2
  rw [abs_sub_comm t, abs_sub_comm u, Set.mem_Icc_iff_abs_le, Set.mem_Icc_iff_abs_le, Set.mem_Icc, Set.mem_Icc, hlower,
    hupper]

theorem sq_sub_le_iff_of_mem_interior {m r t u : ℝ} (hlo : m - r ∉ c.interior) (hhi : m + r ∉ c.interior)
    (ht : t ∈ c.interior) (hu : u ∈ c.interior) : (t - m) ^ 2 ≤ r ^ 2 ↔ (u - m) ^ 2 ≤ r ^ 2 := by
  rw [sq_le_sq, sq_le_sq]
  -- the two places are the same for a radius below zero
  rcases abs_choice r with hr | hr <;> rw [hr]
  · exact abs_sub_le_iff_of_mem_interior hlo hhi ht hu
  · rw [← sub_neg_eq_add] at hhi
    rw [sub_eq_add_neg] at hlo
    exact abs_sub_le_iff_of_mem_interior hhi hlo ht hu

/-- A rectangle that does not meet a circle lies within it or outside of it. -/
theorem disc_iff_of_mem_interior {m n r : ℝ}
    (hclear : ∀ p ∈ c.interior ×ˢ d.interior, (p.1 - m) ^ 2 + (p.2 - n) ^ 2 ≠ r ^ 2) {t t' u u' : ℝ}
    (ht : t ∈ c.interior) (ht' : t' ∈ c.interior) (hu : u ∈ d.interior) (hu' : u' ∈ d.interior) :
    (t - m) ^ 2 + (u - n) ^ 2 ≤ r ^ 2 ↔ (t' - m) ^ 2 + (u' - n) ^ 2 ≤ r ^ 2 := by
  have hcontinuous : Continuous fun p : ℝ × ℝ => (p.1 - m) ^ 2 + (p.2 - n) ^ 2 := by fun_prop
  have hwithin : ∀ p ∈ c.interior ×ˢ d.interior, ∀ q ∈ c.interior ×ˢ d.interior,
      (p.1 - m) ^ 2 + (p.2 - n) ^ 2 ≤ r ^ 2 → (q.1 - m) ^ 2 + (q.2 - n) ^ 2 ≤ r ^ 2 := by
    intro p hp q hq hdisc
    by_contra hout
    -- on the way from one point to the other the circle is met
    obtain ⟨o, ho, hcircle⟩ := (isPreconnected_prod_interior c d).intermediate_value hp hq hcontinuous.continuousOn
      ⟨hdisc, (not_le.1 hout).le⟩
    exact hclear o ho hcircle
  exact ⟨hwithin (t, u) ⟨ht, hu⟩ (t', u') ⟨ht', hu'⟩, hwithin (t', u') ⟨ht', hu'⟩ (t, u) ⟨ht, hu⟩⟩

end Cell

namespace Solid

/-! ### Spans and primitives -/

section

variable {K : Type} [Scalar K]

/-- The spans of a solid depend on those of its boxes and cylinders, and on nothing else about the line. -/
theorem spansAt_congr {s : Solid K} {x y x' y' : K}
    (h : ∀ part ∈ s.primitives, part.spansAt x y = part.spansAt x' y') : s.spansAt x y = s.spansAt x' y' := by
  induction s with
  | cuboid box => exact h _ (by simp)
  | cylinder plane center radius halfLength => exact h _ (by simp)
  | union parts ih =>
    rw [spansAt_union, spansAt_union]
    have hparts : ∀ part ∈ parts, part.spansAt x y = part.spansAt x' y' := fun part hpart =>
      ih part hpart fun primitive hprimitive => h primitive (by
        rw [primitives_union]
        exact List.mem_flatMap.2 ⟨part, hpart, hprimitive⟩)
    generalize ([] : Spans K) = spans
    clear h ih
    induction parts generalizing spans with
    | nil => rw [spansFrom_nil, spansFrom_nil]
    | cons part rest ih =>
      obtain ⟨hpart, hrest⟩ := List.forall_mem_cons.1 hparts
      rw [spansFrom_cons, spansFrom_cons, hpart, ih hrest]
  | difference target tool iht ihu =>
    rw [primitives_difference, List.forall_mem_append] at h
    rw [spansAt_difference, spansAt_difference, iht h.1, ihu h.2]

end

/-! ### Walls seen from above -/

/-- Seen from above, the rectangle keeps clear of the curved wall of a cylinder: it does not meet the circle of
a standing one, and does not lie within the rectangle of a lying one. -/
def IsClearOf (rectangle : Set (ℝ × ℝ)) : Solid ℝ → Prop
  | cylinder .xy center radius _ => ∀ p ∈ rectangle, (p.1 - center.x) ^ 2 + (p.2 - center.y) ^ 2 ≠ radius ^ 2
  | cylinder .yz center radius halfLength =>
    ¬ rectangle ⊆ {p | |p.1 - center.x| ≤ halfLength ∧ (p.2 - center.y) ^ 2 ≤ radius ^ 2}
  | cylinder .xz center radius halfLength =>
    ¬ rectangle ⊆ {p | |p.2 - center.y| ≤ halfLength ∧ (p.1 - center.x) ^ 2 ≤ radius ^ 2}
  | _ => True

variable {s : Solid ℝ} {samples : Nat} {a b : Cell ℝ}

private theorem cuboidSpans_congr {box : Box ℝ} (hx : ∀ e ∈ (cuboid box).breaksX, e ∉ a.interior)
    (hy : ∀ e ∈ (cuboid box).breaksY, e ∉ b.interior) {x x' y y' : ℝ} (hxa : x ∈ a.interior) (hxa' : x' ∈ a.interior)
    (hyb : y ∈ b.interior) (hyb' : y' ∈ b.interior) : cuboidSpans box x y = cuboidSpans box x' y' := by
  have hleft := (Cell.le_iff_of_mem_interior (hx box.min.x (by simp [breaksX])) hxa hxa').1
  have hright := (Cell.le_iff_of_mem_interior (hx box.max.x (by simp [breaksX])) hxa hxa').2
  have hfront := (Cell.le_iff_of_mem_interior (hy box.min.y (by simp [breaksY])) hyb hyb').1
  have hback := (Cell.le_iff_of_mem_interior (hy box.max.y (by simp [breaksY])) hyb hyb').2
  simp only [cuboidSpans, hleft, hright, hfront, hback]

private theorem cylinderSpans_congr {plane : Plane} {center : Vec3 ℝ} {radius halfLength : ℝ}
    (hx : ∀ e ∈ (cylinder plane center radius halfLength).breaksX, e ∉ a.interior)
    (hy : ∀ e ∈ (cylinder plane center radius halfLength).breaksY, e ∉ b.interior)
    (hclear : (cylinder plane center radius halfLength).IsClearOf (a.interior ×ˢ b.interior)) {x x' y y' : ℝ}
    (hxa : x ∈ a.interior) (hxa' : x' ∈ a.interior) (hyb : y ∈ b.interior) (hyb' : y' ∈ b.interior) :
    cylinderSpans plane center radius halfLength x y = cylinderSpans plane center radius halfLength x' y' := by
  cases plane with
  | xy =>
    have hdisc := Cell.disc_iff_of_mem_interior hclear hxa hxa' hyb hyb'
    simp only [cylinderSpans, ← sq, hdisc]
  | yz =>
    -- if the line met the cylinder anywhere in the cell, the cell would lie within its rectangle
    have houtside {t u : ℝ} (ht : t ∈ a.interior) (hu : u ∈ b.interior) :
        ¬ (|t - center.x| ≤ halfLength ∧ (u - center.y) ^ 2 ≤ radius ^ 2) := by
      rintro ⟨halong, hradius⟩
      refine hclear fun p hp => ⟨?_, ?_⟩
      · exact (Cell.abs_sub_le_iff_of_mem_interior (hx _ (by simp [breaksX])) (hx _ (by simp [breaksX])) ht hp.1).1
          halong
      · exact (Cell.sq_sub_le_iff_of_mem_interior (hy _ (by simp [breaksY])) (hy _ (by simp [breaksY])) hu hp.2).1
          hradius
    simp only [cylinderSpans, ← sq, Scalar.magnitude_real, houtside hxa hyb, houtside hxa' hyb', if_false]
  | xz =>
    have houtside {t u : ℝ} (ht : t ∈ a.interior) (hu : u ∈ b.interior) :
        ¬ (|u - center.y| ≤ halfLength ∧ (t - center.x) ^ 2 ≤ radius ^ 2) := by
      rintro ⟨halong, hradius⟩
      refine hclear fun p hp => ⟨?_, ?_⟩
      · exact (Cell.abs_sub_le_iff_of_mem_interior (hy _ (by simp [breaksY])) (hy _ (by simp [breaksY])) hu hp.2).1
          halong
      · exact (Cell.sq_sub_le_iff_of_mem_interior (hx _ (by simp [breaksX])) (hx _ (by simp [breaksX])) ht hp.1).1
          hradius
    simp only [cylinderSpans, ← sq, Scalar.magnitude_real, houtside hxa hyb, houtside hxa' hyb', if_false]

/-! ### Cells of the grid -/

theorem bounds_lt_of_mem_columns (ha : a ∈ s.columns samples) :
    s.bounds.min.x < s.bounds.max.x ∧ s.bounds.min.y < s.bounds.max.y := by
  rw [columns] at ha
  split at ha
  · cases ha
  · rename_i h
    simpa [Box.size] using h

theorem width_pos_of_mem_columns (ha : a ∈ s.columns samples) : 0 < a.width := by
  rw [columns] at ha
  split at ha
  · cases ha
  · exact Cell.width_pos_of_mem_between (Cell.edges_strictSorted ..) ha

theorem width_pos_of_mem_rows (hb : b ∈ s.rows samples) : 0 < b.width :=
  Cell.width_pos_of_mem_between (Cell.edges_strictSorted ..) hb

theorem notMem_interior_of_mem_columns (ha : a ∈ s.columns samples) {e : ℝ} (he : e ∈ s.breaksX) : e ∉ a.interior := by
  have hlo := (bounds_lt_of_mem_columns ha).1.le
  rw [columns] at ha
  split at ha
  · cases ha
  · exact Cell.notMem_interior_of_mem_breaks hlo ha he

theorem notMem_interior_of_mem_rows (ha : a ∈ s.columns samples) (hb : b ∈ s.rows samples) {e : ℝ}
    (he : e ∈ s.breaksY) : e ∉ b.interior :=
  Cell.notMem_interior_of_mem_breaks (bounds_lt_of_mem_columns ha).2.le hb he

/-- The spans over a clear cell do not differ from line to line. -/
theorem spansAt_congr_of_isClearOf (ha : a ∈ s.columns samples) (hb : b ∈ s.rows samples)
    (hclear : ∀ part ∈ s.primitives, part.IsClearOf (a.interior ×ˢ b.interior)) {x x' y y' : ℝ} (hx : x ∈ a.interior)
    (hx' : x' ∈ a.interior) (hy : y ∈ b.interior) (hy' : y' ∈ b.interior) : s.spansAt x y = s.spansAt x' y' := by
  refine spansAt_congr fun part hpart => ?_
  have hbreaksX : ∀ e ∈ part.breaksX, e ∉ a.interior := fun e he =>
    notMem_interior_of_mem_columns ha (mem_breaksX.2 ⟨part, hpart, he⟩)
  have hbreaksY : ∀ e ∈ part.breaksY, e ∉ b.interior := fun e he =>
    notMem_interior_of_mem_rows ha hb (mem_breaksY.2 ⟨part, hpart, he⟩)
  rcases eq_of_mem_primitives hpart with ⟨box, rfl⟩ | ⟨plane, center, radius, halfLength, rfl⟩
  · rw [spansAt_cuboid, spansAt_cuboid]
    exact cuboidSpans_congr hbreaksX hbreaksY hx hx' hy hy'
  · rw [spansAt_cylinder, spansAt_cylinder]
    exact cylinderSpans_congr hbreaksX hbreaksY (hclear _ hpart) hx hx' hy hy'

/-! ### What a solid takes up over a cell -/

/-- The points of the solid over a cell of the plane. -/
def regionOver (s : Solid ℝ) (a b : Cell ℝ) : Set (ℝ × ℝ × ℝ) := s.region ∩ a.interior ×ˢ b.interior ×ˢ Set.univ

theorem measurableSet_regionOver (s : Solid ℝ) (a b : Cell ℝ) : MeasurableSet (s.regionOver a b) :=
  s.measurableSet_region.inter
    (a.measurableSet_interior.prod (b.measurableSet_interior.prod MeasurableSet.univ))

private theorem volume_regionOver_column {spans : Spans ℝ}
    (h : ∀ p ∈ a.interior ×ˢ b.interior, s.spansAt p.1 p.2 = spans) {x : ℝ} (hx : x ∈ a.interior) :
    MeasureTheory.volume (Set.preimage (Prod.mk x) (s.regionOver a b)) =
      ENNReal.ofReal (Spans.length spans) * ENNReal.ofReal b.width := by
  have hline (y : ℝ) : MeasureTheory.volume (Set.preimage (Prod.mk y) (Set.preimage (Prod.mk x) (s.regionOver a b))) =
      b.interior.indicator (fun _ => ENNReal.ofReal (Spans.length spans)) y := by
    by_cases hy : y ∈ b.interior
    · rw [Set.indicator_of_mem hy, ← h (x, y) ⟨hx, hy⟩, ← volume_line]
      congr 1
      ext z
      simp [regionOver, mem_region, mem_line, hx, hy]
    · have hempty : Set.preimage (Prod.mk y) (Set.preimage (Prod.mk x) (s.regionOver a b)) = ∅ := by
        ext z
        simp [regionOver, hy]
      rw [Set.indicator_of_notMem hy, hempty, MeasureTheory.measure_empty]
  rw [Measure.volume_eq_prod, Measure.prod_apply (measurable_prodMk_left (s.measurableSet_regionOver a b))]
  simp only [hline]
  rw [lintegral_indicator_const b.measurableSet_interior, Cell.volume_interior]

/-- Where the spans do not change over a cell, the solid takes up their length times the area of the cell. -/
theorem volume_regionOver {spans : Spans ℝ} (h : ∀ p ∈ a.interior ×ˢ b.interior, s.spansAt p.1 p.2 = spans) :
    MeasureTheory.volume (s.regionOver a b) =
      ENNReal.ofReal (Spans.length spans) * ENNReal.ofReal b.width * ENNReal.ofReal a.width := by
  have hcolumn (x : ℝ) : MeasureTheory.volume (Set.preimage (Prod.mk x) (s.regionOver a b)) =
      a.interior.indicator (fun _ => ENNReal.ofReal (Spans.length spans) * ENNReal.ofReal b.width) x := by
    by_cases hx : x ∈ a.interior
    · rw [Set.indicator_of_mem hx, volume_regionOver_column h hx]
    · simp [regionOver, hx]
  rw [Measure.volume_eq_prod, Measure.prod_apply (s.measurableSet_regionOver a b)]
  simp only [hcolumn]
  rw [lintegral_indicator_const a.measurableSet_interior, Cell.volume_interior]

/-- A vertical line over a cell that is clear of curved walls has the spans of the line through the middle, and what
`Solid.integrate` counts for the cell is what the solid takes up over it. -/
theorem spansAt_eq_middle (ha : a ∈ s.columns samples) (hb : b ∈ s.rows samples)
    (hclear : ∀ part ∈ s.primitives, part.IsClearOf (a.interior ×ˢ b.interior)) :
    (∀ p ∈ a.interior ×ˢ b.interior, s.spansAt p.1 p.2 = s.spansAt a.middle b.middle) ∧
      MeasureTheory.volume (s.regionOver a b) =
        ENNReal.ofReal (Spans.length (s.spansAt a.middle b.middle) * a.width * b.width) := by
  have hwidth := width_pos_of_mem_columns ha
  have hdepth := width_pos_of_mem_rows hb
  have hspans : ∀ p ∈ a.interior ×ˢ b.interior, s.spansAt p.1 p.2 = s.spansAt a.middle b.middle := fun p hp =>
    spansAt_congr_of_isClearOf ha hb hclear hp.1 (Cell.middle_mem_interior hwidth) hp.2
      (Cell.middle_mem_interior hdepth)
  refine ⟨hspans, ?_⟩
  have hlength := (spansAt_isNormal s a.middle b.middle).length_nonneg
  rw [volume_regionOver hspans, mul_right_comm, ENNReal.ofReal_mul (by positivity), ENNReal.ofReal_mul hlength]

/-- A plate with a hole through it and a groove that runs out at its side, where the grid does not follow. -/
theorem spansAt_eq_middle_plate :
    let s : Solid ℝ := difference (cuboid ⟨⟨0, 0, 0⟩, ⟨4, 4, 1⟩⟩)
      (union [cylinder .xy ⟨2, 2, 0⟩ 1 1, cylinder .yz ⟨4, 2, 1⟩ (1 / 2) 1])
    let c : Cell ℝ := ⟨7 / 2, 1⟩
    (c ∈ s.columns 0 ∧ c ∈ s.rows 0 ∧ ∀ part ∈ s.primitives, part.IsClearOf (c.interior ×ˢ c.interior)) ∧
      ∀ p ∈ c.interior ×ˢ c.interior, s.spansAt p.1 p.2 = s.spansAt (7 / 2) (7 / 2) := by
  intro s c
  have hcell (breaks : List ℝ) (hedge : 3 ∈ breaks) (hbreaks : ∀ e ∈ breaks, e ≤ 3 ∨ 4 ≤ e) :
      c ∈ Cell.between (Cell.edges breaks 0 4 0) := by
    have hc : c = ⟨(3 + 4) / 2, 4 - 3⟩ := by norm_num [c]
    rw [hc]
    refine Cell.mem_between (Cell.edges_sorted ..) (Cell.mem_edges.2 (.inr ⟨hedge, by norm_num, by norm_num⟩))
      Cell.hi_mem_edges (by norm_num) fun e he => ?_
    rcases Cell.mem_edges.1 he with he | ⟨he, -, -⟩
    · obtain ⟨i, hi, rfl⟩ := Cell.mem_uniformEdges.1 he
      have hi : i ≤ 1 := hi
      interval_cases i <;> norm_num
    · exact hbreaks e he
  have hbounds : s.bounds = ⟨⟨0, 0, 0⟩, ⟨4, 4, 1⟩⟩ := by simp [s]
  have hcolumn : c ∈ s.columns 0 := by
    rw [columns, if_neg (by simp [hbounds, Box.size]), hbounds]
    refine hcell _ ?_ ?_ <;> simp [s, breaksX, breaksXAll] <;> norm_num
  have hrow : c ∈ s.rows 0 := by
    rw [rows, hbounds]
    refine hcell _ ?_ ?_ <;> simp [s, breaksY, breaksYAll] <;> norm_num
  have hclear : ∀ part ∈ s.primitives, part.IsClearOf (c.interior ×ˢ c.interior) := by
    intro part hpart
    simp only [s, primitives_difference, primitives_union, primitives_cuboid, primitives_cylinder, List.flatMap_cons,
      List.flatMap_nil, List.cons_append, List.nil_append, List.mem_cons, List.not_mem_nil, or_false] at hpart
    rcases hpart with rfl | rfl | rfl
    · trivial
    · rintro p ⟨hx, hy⟩
      rw [Cell.mem_interior] at hx hy
      norm_num [c] at hx hy
      exact fun hcircle => by nlinarith
    · intro hsubset
      have hmiddle : c.middle ∈ c.interior := Cell.middle_mem_interior one_pos
      have := (hsubset (Set.mk_mem_prod hmiddle hmiddle)).2
      norm_num [c] at this
  exact ⟨⟨hcolumn, hrow, hclear⟩, (spansAt_eq_middle hcolumn hrow hclear).1⟩

end Solid

end SolidDrawing
