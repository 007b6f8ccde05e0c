import SolidDrawing.Proofs.Spans
import SolidDrawing.Proofs.Tree

/-!
# Vertical lines through solids

Along a vertical line a solid is read in two ways, by the points that it contains and by `Solid.spansAt`. With exact
arithmetic both agree (`Solid.exists_mem_spansAt_iff_contains`) at every height where no box or cylinder of the solid
begins or ends on the line. A box or a cylinder meets the line in one closed range, perhaps empty, perhaps a single
height (`exists_range_cuboid`, `exists_range_cylinder`); what holds for these ranges is kept by unions and differences.
-/

namespace SolidDrawing

namespace Solid

/-- The heights at which the vertical line through `(x, y)` runs in the solid. -/
def line (x y : ℝ) (s : Solid ℝ) : Set ℝ := {z | s.contains ⟨x, y, z⟩ = true}

/-- On the vertical line through `(x, y)`, one of the boxes and cylinders of the solid begins or ends at `z`. -/
def IsRangeEnd (x y : ℝ) (s : Solid ℝ) (z : ℝ) : Prop :=
  ∃ part ∈ s.primitives, IsLeast (part.line x y) z ∨ IsGreatest (part.line x y) z

theorem mem_line {x y z : ℝ} {s : Solid ℝ} : z ∈ s.line x y ↔ s.contains ⟨x, y, z⟩ = true := Iff.rfl

/-! ### The range of a box or a cylinder -/

/-- A line that misses a primitive has the empty range. -/
private theorem exists_range_of_empty {line : Set ℝ} {spans : Spans ℝ} (hl : ∀ z, z ∉ line) (hs : spans = []) :
    ∃ r : Span ℝ, line = Set.Icc r.lo r.hi ∧ spans = r.toSpans := by
  refine ⟨⟨1, 0⟩, ?_, ?_⟩
  · rw [Set.Icc_eq_empty (by norm_num)]
    exact Set.eq_empty_of_forall_notMem hl
  · simp [hs, Span.toSpans]

private theorem exists_range_cuboid (box : Box ℝ) (x y : ℝ) :
    ∃ r : Span ℝ, (cuboid box).line x y = Set.Icc r.lo r.hi ∧ (cuboid box).spansAt x y = r.toSpans := by
  have hmem : ∀ z, z ∈ (cuboid box).line x y ↔
      (box.min.x ≤ x ∧ x ≤ box.max.x) ∧ (box.min.y ≤ y ∧ y ≤ box.max.y) ∧ box.min.z ≤ z ∧ z ≤ box.max.z := by
    intro z
    rw [mem_line, contains_cuboid, Box.contains_iff]
  rw [spansAt_cuboid, cuboidSpans]
  split
  · rename_i h
    refine ⟨⟨box.min.z, box.max.z⟩, Set.ext fun z => ?_, rfl⟩
    rw [hmem, Set.mem_Icc]
    tauto
  · rename_i h
    refine exists_range_of_empty (fun z hz => h ?_) rfl
    have := (hmem z).1 hz
    tauto

/-- The heights of a circle around `(d, c)` on a line through it. -/
private theorem sq_add_sq_le_iff {d c z rr : ℝ} (h : d * d ≤ rr) :
    d * d + (z - c) * (z - c) ≤ rr ↔ c - √(rr - d * d) ≤ z ∧ z ≤ c + √(rr - d * d) := by
  have hsq := Real.sq_le (x := z - c) (sub_nonneg.2 h)
  rw [← le_sub_iff_add_le', ← pow_two (z - c), hsq]
  constructor
  · rintro ⟨h₁, h₂⟩
    constructor <;> linarith
  · rintro ⟨h₁, h₂⟩
    constructor <;> linarith

/-- A lying cylinder at a distance `d` from the line, where `a` is the distance along its axis. -/
private theorem exists_range_lying {line : Set ℝ} {a d c halfLength rr : ℝ}
    (hl : ∀ z, z ∈ line ↔ |a| ≤ halfLength ∧ d * d + (z - c) * (z - c) ≤ rr) :
    ∃ r : Span ℝ, line = Set.Icc r.lo r.hi ∧
      (if |a| ≤ halfLength ∧ d * d ≤ rr then Span.toSpans ⟨c - √(rr - d * d), c + √(rr - d * d)⟩ else []) =
        r.toSpans := by
  split
  · rename_i h
    refine ⟨⟨_, _⟩, Set.ext fun z => ?_, rfl⟩
    rw [hl, sq_add_sq_le_iff h.2, Set.mem_Icc, and_iff_right h.1]
  · rename_i h
    refine exists_range_of_empty (fun z hz => h ?_) rfl
    obtain ⟨h₁, h₂⟩ := (hl z).1 hz
    exact ⟨h₁, by nlinarith [mul_self_nonneg (z - c)]⟩

private theorem exists_range_cylinder (plane : Plane) (center : Vec3 ℝ) (radius halfLength x y : ℝ) :
    ∃ r : Span ℝ, (cylinder plane center radius halfLength).line x y = Set.Icc r.lo r.hi ∧
      (cylinder plane center radius halfLength).spansAt x y = r.toSpans := by
  rw [spansAt_cylinder]
  cases plane with
  | xy =>
    have hmem : ∀ z, z ∈ (cylinder .xy center radius halfLength).line x y ↔
        |z - center.z| ≤ halfLength ∧
          (x - center.x) * (x - center.x) + (y - center.y) * (y - center.y) ≤ radius * radius := by
      intro z
      rw [mem_line, contains_cylinder, cylinderContains_iff]
      simp [Plane.toLocal, Vec2.normSq]
    simp only [cylinderSpans]
    split
    · rename_i h
      refine ⟨⟨_, _⟩, Set.ext fun z => ?_, rfl⟩
      rw [hmem, and_iff_left h, abs_le, Set.mem_Icc]
      constructor
      · rintro ⟨h₁, h₂⟩
        constructor <;> linarith
      · rintro ⟨h₁, h₂⟩
        constructor <;> linarith
    · rename_i h
      exact exists_range_of_empty (fun z hz => h ((hmem z).1 hz).2) rfl
  | yz =>
    refine exists_range_lying fun z => ?_
    rw [mem_line, contains_cylinder, cylinderContains_iff]
    simp [Plane.toLocal, Vec2.normSq]
  | xz =>
    refine exists_range_lying fun z => ?_
    rw [mem_line, contains_cylinder, cylinderContains_iff]
    simp [Plane.toLocal, Vec2.normSq]

/-! ### Normal forms -/

private theorem spansFrom_isNormal {x y : ℝ} {parts : List (Solid ℝ)} {spans : Spans ℝ} (h : spans.IsNormal)
    (hp : ∀ part ∈ parts, (part.spansAt x y).IsNormal) : (spansFrom x y spans parts).IsNormal := by
  induction parts generalizing spans with
  | nil => simpa using h
  | cons part rest ih =>
    obtain ⟨hpart, hrest⟩ := List.forall_mem_cons.1 hp
    rw [spansFrom_cons]
    exact ih (Spans.union_isNormal h.proper hpart.proper) hrest

/-- The spans of a solid are in normal form, whatever the solid. -/
theorem spansAt_isNormal (s : Solid ℝ) (x y : ℝ) : (s.spansAt x y).IsNormal := by
  induction s with
  | cuboid box =>
    obtain ⟨r, -, h⟩ := exists_range_cuboid box x y
    exact h ▸ Span.isNormal_toSpans r
  | cylinder plane center radius halfLength =>
    obtain ⟨r, -, h⟩ := exists_range_cylinder plane center radius halfLength x y
    exact h ▸ Span.isNormal_toSpans r
  | union parts ih =>
    rw [spansAt_union]
    exact spansFrom_isNormal Spans.isNormal_nil ih
  | difference target tool iht ihu =>
    rw [spansAt_difference]
    exact Spans.difference_isNormal iht ihu.proper

/-! ### Ends -/

private theorem isEnd_spansFrom {x y z : ℝ} {parts : List (Solid ℝ)} {spans : Spans ℝ}
    (hz : (spansFrom x y spans parts).IsEnd z) : spans.IsEnd z ∨ ∃ part ∈ parts, (part.spansAt x y).IsEnd z := by
  induction parts generalizing spans with
  | nil => exact .inl (by simpa using hz)
  | cons part rest ih =>
    rw [spansFrom_cons] at hz
    rcases ih hz with h | ⟨p, hp, h⟩
    · rcases Spans.isEnd_of_isEnd_union h with h | h
      · exact .inl h
      · exact .inr ⟨part, List.mem_cons_self .., h⟩
    · exact .inr ⟨p, List.mem_cons_of_mem _ hp, h⟩

private theorem isRangeEnd_of_range {s : Solid ℝ} {x y z : ℝ} {r : Span ℝ} (hs : s.primitives = [s])
    (hline : s.line x y = Set.Icc r.lo r.hi) (hspans : s.spansAt x y = r.toSpans)
    (hz : (s.spansAt x y).IsEnd z) : s.IsRangeEnd x y z := by
  refine ⟨s, by simp [hs], ?_⟩
  obtain ⟨t, ht, hz⟩ := hspans ▸ hz
  obtain ⟨rfl, hlt⟩ := Span.mem_toSpans.1 ht
  rw [hline]
  rcases hz with rfl | rfl
  · exact .inl (isLeast_Icc hlt.le)
  · exact .inr (isGreatest_Icc hlt.le)

theorem isRangeEnd_union {parts : List (Solid ℝ)} {x y z : ℝ} :
    (union parts).IsRangeEnd x y z ↔ ∃ part ∈ parts, part.IsRangeEnd x y z := by
  simp only [IsRangeEnd, primitives_union, List.mem_flatMap]
  constructor
  · rintro ⟨p, ⟨part, hpart, hp⟩, h⟩
    exact ⟨part, hpart, p, hp, h⟩
  · rintro ⟨part, hpart, p, hp, h⟩
    exact ⟨p, ⟨part, hpart, hp⟩, h⟩

theorem isRangeEnd_difference {target tool : Solid ℝ} {x y z : ℝ} :
    (difference target tool).IsRangeEnd x y z ↔ target.IsRangeEnd x y z ∨ tool.IsRangeEnd x y z := by
  simp [IsRangeEnd, or_and_right, exists_or]

/-- Every end of the spans of a solid is an end of the range of one of its boxes and cylinders. -/
theorem isRangeEnd_of_isEnd_spansAt {s : Solid ℝ} {x y z : ℝ} (hz : (s.spansAt x y).IsEnd z) :
    s.IsRangeEnd x y z := by
  induction s with
  | cuboid box =>
    obtain ⟨r, hline, hspans⟩ := exists_range_cuboid box x y
    exact isRangeEnd_of_range (primitives_cuboid box) hline hspans hz
  | cylinder plane center radius halfLength =>
    obtain ⟨r, hline, hspans⟩ := exists_range_cylinder plane center radius halfLength x y
    exact isRangeEnd_of_range (primitives_cylinder ..) hline hspans hz
  | union parts ih =>
    rw [spansAt_union] at hz
    rcases isEnd_spansFrom hz with h | ⟨part, hpart, h⟩
    · exact absurd h (Spans.isEnd_nil z)
    · exact isRangeEnd_union.2 ⟨part, hpart, ih part hpart h⟩
  | difference target tool iht ihu =>
    rw [spansAt_difference] at hz
    exact isRangeEnd_difference.2 ((Spans.isEnd_of_isEnd_difference hz).imp iht ihu)

/-! ### Covering -/

private theorem covers_spansFrom {x y z : ℝ} {parts : List (Solid ℝ)} {spans : Spans ℝ} (h : spans.Proper) :
    (spansFrom x y spans parts).Covers z ↔ spans.Covers z ∨ ∃ part ∈ parts, (part.spansAt x y).Covers z := by
  induction parts generalizing spans with
  | nil => simp
  | cons part rest ih =>
    have hp := (spansAt_isNormal part x y).proper
    rw [spansFrom_cons, ih (Spans.union_isNormal h hp).proper, Spans.covers_union h hp]
    simp [or_assoc]

private theorem covers_of_range {s : Solid ℝ} {x y z : ℝ} {r : Span ℝ} (hs : s.primitives = [s])
    (hline : s.line x y = Set.Icc r.lo r.hi) (hspans : s.spansAt x y = r.toSpans)
    (hz : ¬ s.IsRangeEnd x y z) : (s.spansAt x y).Covers z ↔ z ∈ s.line x y := by
  rw [hspans, Span.covers_toSpans, hline, Set.mem_Icc]
  refine and_iff_right_of_imp fun hin => ?_
  -- a range that is a single height consists of its own ends
  by_contra hlt
  have heq : z = r.lo := le_antisymm (hin.2.trans (not_lt.1 hlt)) hin.1
  refine hz ⟨s, by simp [hs], .inl ?_⟩
  rw [hline, heq]
  exact isLeast_Icc (hin.1.trans hin.2)

/-- What the spans cover, away from the ends of the ranges. -/
theorem covers_spansAt (s : Solid ℝ) (x y : ℝ) {z : ℝ} (hz : ¬ s.IsRangeEnd x y z) :
    (s.spansAt x y).Covers z ↔ z ∈ s.line x y := by
  induction s with
  | cuboid box =>
    obtain ⟨r, hline, hspans⟩ := exists_range_cuboid box x y
    exact covers_of_range (primitives_cuboid box) hline hspans hz
  | cylinder plane center radius halfLength =>
    obtain ⟨r, hline, hspans⟩ := exists_range_cylinder plane center radius halfLength x y
    exact covers_of_range (primitives_cylinder ..) hline hspans hz
  | union parts ih =>
    rw [spansAt_union, covers_spansFrom Spans.isNormal_nil.proper, or_iff_right (Spans.covers_nil z), mem_line,
      contains_union, List.any_eq_true]
    refine exists_congr fun part => and_congr_right fun hpart => ?_
    exact ih part hpart fun h => hz (isRangeEnd_union.2 ⟨part, hpart, h⟩)
  | difference target tool iht ihu =>
    rw [isRangeEnd_difference, not_or] at hz
    have hend : ¬ (tool.spansAt x y).IsEnd z := fun h => hz.2 (isRangeEnd_of_isEnd_spansAt h)
    rw [spansAt_difference, Spans.covers_difference (spansAt_isNormal target x y).proper
      (spansAt_isNormal tool x y) hend, iht hz.1, ihu hz.2]
    simp [mem_line]

/-- Away from the heights where its boxes and cylinders begin or end, the spans of a solid along a vertical line cover
exactly the points of the line that the solid contains. -/
theorem exists_mem_spansAt_iff_contains (s : Solid ℝ) (x y z : ℝ) (hz : ¬ s.IsRangeEnd x y z) :
    (∃ i ∈ s.spansAt x y, i.lo ≤ z ∧ z ≤ i.hi) ↔ s.contains ⟨x, y, z⟩ = true :=
  covers_spansAt s x y hz

/-- Two boxes that touch, less a lying cylinder that touches the line in one point. -/
theorem exists_mem_spansAt_iff_contains_tangent :
    let s : Solid ℝ := difference (union [cuboid ⟨⟨0, 0, 0⟩, ⟨2, 2, 1⟩⟩, cuboid ⟨⟨0, 0, 1⟩, ⟨2, 2, 2⟩⟩])
      (cylinder .yz ⟨1, 1, 1⟩ 1 5)
    ¬ s.IsRangeEnd 1 2 (1 / 2) ∧
      ((∃ i ∈ s.spansAt 1 2, i.lo ≤ 1 / 2 ∧ 1 / 2 ≤ i.hi) ↔ s.contains ⟨1, 2, 1 / 2⟩ = true) := by
  intro s
  have hends : ¬ s.IsRangeEnd 1 2 (1 / 2) := by
    rintro ⟨part, hpart, h⟩
    simp only [s, primitives_difference, primitives_union, List.flatMap_cons, List.flatMap_nil, primitives_cuboid,
      primitives_cylinder, List.cons_append, List.nil_append, List.mem_cons, List.not_mem_nil, or_false] at hpart
    have hin : (1 / 2 : ℝ) ∈ part.line 1 2 := h.elim And.left And.left
    rcases hpart with rfl | rfl | rfl
    · -- the range of the lower box is `[0, 1]`
      have h0 : (0 : ℝ) ∈ line 1 2 (cuboid ⟨⟨0, 0, 0⟩, ⟨2, 2, 1⟩⟩) := by
        simp [mem_line, Box.contains_iff]
      have h1 : (1 : ℝ) ∈ line 1 2 (cuboid ⟨⟨0, 0, 0⟩, ⟨2, 2, 1⟩⟩) := by
        simp [mem_line, Box.contains_iff]
      rcases h with h | h
      · have := h.2 h0
        norm_num at this
      · have := h.2 h1
        norm_num at this
    · norm_num [mem_line, Box.contains_iff] at hin
    · norm_num [mem_line, cylinderContains_iff, Plane.toLocal, Vec2.normSq] at hin
  exact ⟨hends, exists_mem_spansAt_iff_contains s 1 2 (1 / 2) hends⟩

end Solid

end SolidDrawing
