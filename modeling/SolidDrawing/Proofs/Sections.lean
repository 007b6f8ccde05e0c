import SolidDrawing.Proofs.Volumes

/-!
# The space of a solid

The points of a solid are a measurable set (`Solid.region`). Along a vertical line their measure is the length of the
spans of the solid (`Solid.volume_line`), so that the measure of the whole set is the integral of these lengths
(`Solid.volume_region`).
-/

namespace SolidDrawing

open MeasureTheory

/-! ### Lengths of spans -/

namespace Spans

theorem length_cons (s : Span ℝ) (spans : Spans ℝ) : length (s :: spans) = s.hi - s.lo + length spans := by
  rw [length_eq_sum, length_eq_sum, List.map_cons, List.sum_cons]

private theorem setOf_covers_cons (s : Span ℝ) (spans : Spans ℝ) :
    {z | Covers (s :: spans) z} = Set.Icc s.lo s.hi ∪ {z | spans.Covers z} := by
  ext z
  exact covers_cons

theorem measurableSet_covers (spans : Spans ℝ) : MeasurableSet {z | spans.Covers z} := by
  induction spans with
  | nil => simp
  | cons s spans ih =>
    rw [setOf_covers_cons]
    exact measurableSet_Icc.union ih

/-- What spans in normal form cover has their length. -/
theorem volume_covers {spans : Spans ℝ} (h : spans.IsNormal) :
    volume {z | spans.Covers z} = ENNReal.ofReal (length spans) := by
  induction spans with
  | nil => simp [length]
  | cons s spans ih =>
    obtain ⟨hs, hsep, hnormal⟩ := isNormal_cons.1 h
    have hdisjoint : Disjoint (Set.Icc s.lo s.hi) {z | Covers spans z} := by
      refine Set.disjoint_left.2 fun z hz hcov => ?_
      obtain ⟨t, ht, hlo, -⟩ := hcov
      exact absurd (hsep t ht) (not_lt.2 (hlo.trans hz.2))
    rw [setOf_covers_cons, measure_union hdisjoint (measurableSet_covers spans), Real.volume_Icc, ih hnormal,
      length_cons, ENNReal.ofReal_add (sub_nonneg.2 hs.le) hnormal.length_nonneg]

end Spans

namespace Solid

/-! ### Lines -/

theorem finite_isRangeEnd (s : Solid ℝ) (x y : ℝ) : {z | s.IsRangeEnd x y z}.Finite := by
  have heq : {z | s.IsRangeEnd x y z} =
      ⋃ part ∈ {part | part ∈ s.primitives}, {z | IsLeast (part.line x y) z} ∪ {z | IsGreatest (part.line x y) z} := by
    ext z
    simp [IsRangeEnd]
  rw [heq]
  refine (List.finite_toSet s.primitives).biUnion fun part _ => Set.Finite.union ?_ ?_
  · exact Set.Subsingleton.finite fun _ h _ h' => h.unique h'
  · exact Set.Subsingleton.finite fun _ h _ h' => h.unique h'

/-- A solid takes up as much of a vertical line as its spans are long. -/
theorem volume_line (s : Solid ℝ) (x y : ℝ) :
    MeasureTheory.volume (s.line x y) = ENNReal.ofReal (Spans.length (s.spansAt x y)) := by
  rw [← Spans.volume_covers (spansAt_isNormal s x y)]
  refine measure_congr ?_
  -- the two sets differ at the ends of ranges only
  have hends := measure_eq_zero_iff_ae_notMem.1 ((finite_isRangeEnd s x y).measure_zero MeasureTheory.volume)
  filter_upwards [hends] with z hz
  exact propext (covers_spansAt s x y hz).symm

/-! ### Regions -/

/-- The points of a solid. -/
def region (s : Solid ℝ) : Set (ℝ × ℝ × ℝ) := {p | s.contains ⟨p.1, p.2.1, p.2.2⟩ = true}

theorem mem_region {s : Solid ℝ} {p : ℝ × ℝ × ℝ} : p ∈ s.region ↔ s.contains ⟨p.1, p.2.1, p.2.2⟩ = true := Iff.rfl

theorem region_difference (target tool : Solid ℝ) : (difference target tool).region = target.region \ tool.region := by
  ext p
  simp [mem_region]

private theorem measurableSet_region_cylinder (plane : Plane) (center : Vec3 ℝ) (radius halfLength : ℝ) :
    MeasurableSet (cylinder plane center radius halfLength).region := by
  have heq : (cylinder plane center radius halfLength).region =
      {p | |plane.offsetOf (⟨p.1, p.2.1, p.2.2⟩ - center)| ≤ halfLength} ∩
        {p | (plane.toLocal (⟨p.1, p.2.1, p.2.2⟩ - center)).normSq ≤ radius * radius} := by
    ext p
    simp only [mem_region, contains_cylinder, cylinderContains_iff, Set.mem_inter_iff, Set.mem_ofPred_eq]
  rw [heq]
  refine (measurableSet_le ?_ measurable_const).inter (measurableSet_le ?_ measurable_const)
  · cases plane <;> simp <;> fun_prop
  · cases plane <;> simp [Plane.toLocal, Vec2.normSq] <;> fun_prop

theorem measurableSet_region (s : Solid ℝ) : MeasurableSet s.region := by
  induction s with
  | cuboid box =>
    have heq : (cuboid box).region = Set.Icc box.min.x box.max.x ×ˢ Set.Icc box.min.y box.max.y ×ˢ
        Set.Icc box.min.z box.max.z := by
      ext p
      simp only [mem_region, contains_cuboid, Box.contains_iff, Set.mem_prod, Set.mem_Icc]
    rw [heq]
    exact measurableSet_Icc.prod (measurableSet_Icc.prod measurableSet_Icc)
  | cylinder plane center radius halfLength => exact measurableSet_region_cylinder plane center radius halfLength
  | union parts ih =>
    have heq : (union parts).region = ⋃ part ∈ {part | part ∈ parts}, part.region := by
      ext p
      simp [mem_region]
    rw [heq]
    exact MeasurableSet.biUnion (List.finite_toSet parts).countable ih
  | difference target tool iht ihu =>
    rw [region_difference]
    exact iht.diff ihu

/-- The volume of a solid is found from its vertical lines. -/
theorem volume_region (s : Solid ℝ) :
    MeasureTheory.volume s.region = ∫⁻ x, ∫⁻ y, MeasureTheory.volume (s.line x y) := by
  rw [Measure.volume_eq_prod, Measure.prod_apply s.measurableSet_region]
  refine lintegral_congr fun x => ?_
  rw [Measure.volume_eq_prod, Measure.prod_apply (measurable_prodMk_left s.measurableSet_region)]
  rfl

end Solid

end SolidDrawing
