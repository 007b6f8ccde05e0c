import SolidDrawing.Proofs.BoxVolumes
import SolidDrawing.Proofs.Material

/-!
# How far through-holes go

A through-hole takes away what is near its axis, as far as its depth to both sides of its center. How thick the base is
does not matter to it. So it goes all the way through a solid exactly if nothing of what the other operations leave near
its axis is farther from its center than the depth (`Store.goesThrough_iff`). Otherwise it is blind, as the hole of
`shallowHole` is, which has material above it and below it.
-/

namespace SolidDrawing

open Operation

namespace ThroughHole

/-- How far the point is from the center of the hole along the axis, with a sign. -/
def along (h : ThroughHole ℝ) (p : Vec3 ℝ) : ℝ :=
  match h.axis with
  | .x => p.x - h.center.x
  | .y => p.y - h.center.y
  | .z => p.z - h.center.z

/-- The distance of the point from the line through the center of the hole along its axis. -/
noncomputable def distance (h : ThroughHole ℝ) (p : Vec3 ℝ) : ℝ :=
  match h.axis with
  | .x => √((p.y - h.center.y) ^ 2 + (p.z - h.center.z) ^ 2)
  | .y => √((p.x - h.center.x) ^ 2 + (p.z - h.center.z) ^ 2)
  | .z => √((p.x - h.center.x) ^ 2 + (p.y - h.center.y) ^ 2)

theorem covers_iff {h : ThroughHole ℝ} (hr : 0 < h.radius) {p : Vec3 ℝ} :
    h.Covers p ↔ |h.along p| ≤ h.depth ∧ h.distance p ≤ h.radius := by
  have hsqrt (d : ℝ) : √d ≤ h.radius ↔ d ≤ h.radius ^ 2 := by
    rw [Real.sqrt_le_iff, and_iff_right hr.le]
  unfold Covers along distance
  cases h.axis <;> simp only [hsqrt]

theorem radius_pos_of_fault? {h : ThroughHole ℝ} (hh : (throughHole h).fault? = none) : 0 < h.radius :=
  (fault?_throughHole_eq_none_iff.1 hh).1

end ThroughHole

namespace Store

variable [DecimalText ℝ] {s s' : Store ℝ} {spec : SolidSpec ℝ} {r : SolidRef}

/-- What a build leaves out is what its description does not declare. -/
theorem contains_eq_ok_false_iff (hn : Function.Injective s.names)
    (h : ((kernel : Kernel ℝ (StateM (Store ℝ))).build spec).run.run s = (.ok r, s')) (p : Vec3 ℝ) :
    s'.contains r p = .ok false ↔ ¬ spec.Declares p := by
  obtain ⟨plan, hplan, hholds⟩ := holds_of_build hn h
  have hverdict := Plan.Verdict.of_ofSpec hplan
  rw [contains_of_find hholds.find_eq, Except.ok.injEq, ← hverdict.contains_tree_iff, Bool.not_eq_true]

theorem fault?_eq_none_of_build (hn : Function.Injective s.names)
    (h : ((kernel : Kernel ℝ (StateM (Store ℝ))).build spec).run.run s = (.ok r, s')) {op : Operation ℝ}
    (hop : op ∈ spec.operations) : op.fault? = none := by
  obtain ⟨plan, hplan, -⟩ := holds_of_build hn h
  have hverdict := Plan.Verdict.of_ofSpec hplan
  exact hverdict.isSound.fault?_eq_none hop

/-- A hole takes away all that is near its axis and no farther from its center than its depth. It goes all the way
through if and only if that is all that the base and the other operations leave near the axis. -/
theorem goesThrough_iff (hn : Function.Injective s.names)
    (h : ((kernel : Kernel ℝ (StateM (Store ℝ))).build spec).run.run s = (.ok r, s')) {hole : ThroughHole ℝ}
    (hhole : throughHole hole ∈ spec.operations) :
    (∀ p, hole.distance p ≤ hole.radius → |hole.along p| ≤ hole.depth → s'.contains r p = .ok false) ∧
      ((∀ p, hole.distance p ≤ hole.radius → s'.contains r p = .ok false) ↔
        ∀ p, hole.distance p ≤ hole.radius → spec.DeclaresBase p →
          (∀ op ∈ spec.operations, op ≠ throughHole hole → ¬ op.Removes p) → |hole.along p| ≤ hole.depth) := by
  have hcovers (p : Vec3 ℝ) : hole.Covers p ↔ |hole.along p| ≤ hole.depth ∧ hole.distance p ≤ hole.radius :=
    ThroughHole.covers_iff (ThroughHole.radius_pos_of_fault? (fault?_eq_none_of_build hn h hhole))
  have hreached : ∀ p, hole.distance p ≤ hole.radius → |hole.along p| ≤ hole.depth → s'.contains r p = .ok false := by
    intro p hnear hdepth
    rw [contains_eq_ok_false_iff hn h]
    rintro ⟨-, hkept⟩
    exact hkept _ hhole ((hcovers p).2 ⟨hdepth, hnear⟩)
  refine ⟨hreached, ?_, ?_⟩
  · intro hthrough p hnear hbase hothers
    by_contra hdeep
    -- nothing else takes the point away, and the hole does not reach it
    have hkept : ∀ op ∈ spec.operations, ¬ op.Removes p := by
      intro op hop hremoves
      by_cases hself : op = throughHole hole
      · subst hself
        exact hdeep ((hcovers p).1 hremoves).1
      · exact hothers op hop hself hremoves
    exact (contains_eq_ok_false_iff hn h p).1 (hthrough p hnear) ⟨hbase, hkept⟩
  · intro hleft p hnear
    rw [contains_eq_ok_false_iff hn h]
    rintro ⟨hbase, hkept⟩
    have hdepth := hleft p hnear hbase fun op hop _ => hkept op hop
    exact hkept _ hhole ((hcovers p).2 ⟨hdepth, hnear⟩)

end Store

/-- What a cut leaves is found to be as large as a box in it that ends where parts of the target end. -/
theorem Solid.ofReal_size_le_volume {t u : Solid ℝ} {b : Box ℝ} (hx : b.min.x ∈ t.breaksX ∧ b.max.x ∈ t.breaksX)
    (hy : b.min.y ∈ t.breaksY ∧ b.max.y ∈ t.breaksY)
    (hleft : ∀ p, b.contains p = true → t.contains p = true ∧ u.contains p = false) (samples : Nat) :
    ENNReal.ofReal b.size.x * (ENNReal.ofReal b.size.y * ENNReal.ofReal b.size.z) ≤
      ENNReal.ofReal ((difference t u).volume samples) := by
  have hsub : ∀ p, (cuboid b).contains p = true → (difference t u).contains p = true := by
    intro p hp
    obtain ⟨htarget, htool⟩ := hleft p (by simpa using hp)
    simp [htarget, htool]
  rw [← volume_region_cuboid]
  exact (ofBoxes_cuboid b).volume_region_le_volume (by simp [sides, breaksX, Axis.plane, hx])
    (by simp [sides, breaksY, Axis.plane, hy]) hsub samples

/-- A block of height `32` with a hole of depth `1` around its middle. -/
noncomputable def shallowHole : SolidSpec ℝ :=
  ⟨"block", [.baseBox ⟨32, 32, 32, true, false⟩, .throughHole ⟨1, 1, .z, ⟨0, 0, 16⟩⟩]⟩

namespace Store

private theorem ofSpec_shallowHole : Plan.ofSpec shallowHole =
    .ok ⟨"block", .box ⟨32, 32, 32, true, false⟩, [], [⟨1, 1, .z, ⟨0, 0, 16⟩⟩]⟩ := by
  have hbox : (baseBox ⟨32, 32, 32, true, false⟩ : Operation ℝ).fault? = none :=
    fault?_baseBox_eq_none_iff.2 (by simp [Vec3.isPositive_iff, BaseBox.size])
  have hhole : (throughHole ⟨1, 1, .z, ⟨0, 0, 16⟩⟩ : Operation ℝ).fault? = none :=
    fault?_throughHole_eq_none_iff.2 (by simp)
  simp only [shallowHole, Plan.ofSpec, Buckets.ofSpec, Buckets.addAll, hbox, hhole]
  rfl

/-- A block with one hole is built if enough is found in what the hole leaves. -/
theorem exists_build_of_hole [DecimalText ℝ] {s : Store ℝ} (hn : Function.Injective s.names) {spec : SolidSpec ℝ}
    {id : String} {block : BaseBox ℝ} {hole : ThroughHole ℝ} (hp : Plan.ofSpec spec = .ok ⟨id, .box block, [], [hole]⟩)
    (hleft : s.config.emptyVolume < (Solid.difference (Base.box block).tree hole.tool).volume s.config.samples) :
    ∃ r s', ((kernel : Kernel ℝ (StateM (Store ℝ))).build spec).run.run s = (.ok r, s') := by
  rcases build_cases hn hp (Plan.Verdict.of_ofSpec hp).isProper_of_mem_steps with h | ⟨pre, post, hsplit, hvolume, -⟩
  · exact h
  · -- there is one cut, and the hole is swept before
    have hsteps : hole.steps = pre ++ .subtract :: post := hsplit
    rcases pre with _ | ⟨sweep, _ | ⟨cut, rest⟩⟩
    · cases hsteps
    · cases hsteps
      exact absurd hvolume (not_le.2 hleft)
    · simp [ThroughHole.steps] at hsteps

/-- The lower part of the block stays as it was. -/
private theorem le_volume_shallowHole (samples : Nat) : 4096 ≤
    (Solid.difference (Base.box ⟨32, 32, 32, true, false⟩).tree (ThroughHole.tool ⟨1, 1, .z, ⟨0, 0, 16⟩⟩) :
      Solid ℝ).volume samples := by
  have hblock : (Base.box ⟨32, 32, 32, true, false⟩).tree = .cuboid (⟨⟨-16, -16, 0⟩, ⟨16, 16, 32⟩⟩ : Box ℝ) := by
    norm_num [Base.tree, Box.ofCorners, Centering.minCorner, Vec3.lower, Vec3.upper, Vec3.scale, BaseBox.size]
    exact Scalar.zero_real
  rw [hblock]
  have hlower := Solid.ofReal_size_le_volume (b := ⟨⟨-16, -16, 0⟩, ⟨16, 16, 4⟩⟩)
    (u := ThroughHole.tool ⟨1, 1, .z, ⟨0, 0, 16⟩⟩) (t := .cuboid ⟨⟨-16, -16, 0⟩, ⟨16, 16, 32⟩⟩)
    (by simp [Solid.breaksX]) (by simp [Solid.breaksY]) ?_ samples
  · rw [← ENNReal.ofReal_mul (by norm_num [Box.size]), ← ENNReal.ofReal_mul (by norm_num [Box.size]),
      ENNReal.ofReal_le_ofReal_iff (Solid.volume_nonneg ..)] at hlower
    norm_num [Box.size] at hlower
    exact hlower
  · intro p hp
    simp only [Solid.contains_cuboid, Box.contains_iff, ← Bool.not_eq_true, ThroughHole.contains_tool_iff] at hp ⊢
    obtain ⟨hx, hy, hz, hz'⟩ := hp
    refine ⟨⟨hx, hy, hz, by linarith⟩, fun hin => ?_⟩
    linarith [(abs_le.1 hin.1).1]

/-- The hole goes through the middle of the block, but not to its bottom. -/
theorem goesThrough_iff_shallowHole : ∃ _ : DecimalText ℝ, ∃ r s',
    ((kernel : Kernel ℝ (StateM (Store ℝ))).build shallowHole).run.run (empty ⟨256, 1 / 10 ^ 9⟩ unaryNames) =
        (.ok r, s') ∧
      s'.contains r ⟨0, 0, 16⟩ = .ok false ∧
      ¬ ∀ p, ThroughHole.distance ⟨1, 1, .z, ⟨0, 0, 16⟩⟩ p ≤ 1 → s'.contains r p = .ok false := by
  let text : DecimalText ℝ := ⟨fun _ => ""⟩
  have hnames : Function.Injective (empty ⟨256, 1 / 10 ^ 9⟩ unaryNames : Store ℝ).names := unaryNames_injective
  obtain ⟨r, s', h⟩ := exists_build_of_hole hnames ofSpec_shallowHole
    (lt_of_lt_of_le (by norm_num [empty]) (le_volume_shallowHole 256))
  have hhole : throughHole ⟨1, 1, .z, ⟨0, 0, 16⟩⟩ ∈ shallowHole.operations := by simp [shallowHole]
  obtain ⟨hreached, hthrough⟩ := goesThrough_iff hnames h hhole
  refine ⟨text, r, s', h, hreached _ ?_ ?_, fun hall => ?_⟩
  · simp [ThroughHole.distance]
  · simp [ThroughHole.along]
  · have hbottom := hthrough.1 hall ⟨0, 0, 0⟩ ?_ ?_ ?_
    · norm_num [ThroughHole.along] at hbottom
    · simp [ThroughHole.distance]
    · exact .inl ⟨⟨32, 32, 32, true, false⟩, by simp [shallowHole], by norm_num [BaseBox.Covers, Centering.range]⟩
    · intro op hop hother
      simp only [shallowHole, List.mem_cons, List.not_mem_nil, or_false] at hop
      rcases hop with rfl | rfl
      · exact id
      · exact absurd rfl hother

/-- A build that succeeds, with a point on the axis of a hole that is in the solid. -/
theorem blind_shallowHole : ∃ _ : DecimalText ℝ, ∃ r s',
    ((kernel : Kernel ℝ (StateM (Store ℝ))).build shallowHole).run.run (empty ⟨256, 1 / 10 ^ 9⟩ unaryNames) =
        (.ok r, s') ∧
      throughHole ⟨1, 1, .z, ⟨0, 0, 16⟩⟩ ∈ shallowHole.operations ∧
      ThroughHole.distance ⟨1, 1, .z, ⟨0, 0, 16⟩⟩ ⟨0, 0, 0⟩ = 0 ∧ s'.contains r ⟨0, 0, 0⟩ = .ok true := by
  let text : DecimalText ℝ := ⟨fun _ => ""⟩
  have hnames : Function.Injective (empty ⟨256, 1 / 10 ^ 9⟩ unaryNames : Store ℝ).names := unaryNames_injective
  obtain ⟨r, s', h⟩ := exists_build_of_hole hnames ofSpec_shallowHole
    (lt_of_lt_of_le (by norm_num [empty]) (le_volume_shallowHole 256))
  refine ⟨text, r, s', h, by simp [shallowHole], by simp [ThroughHole.distance], ?_⟩
  have hdeclared : shallowHole.Declares ⟨0, 0, 0⟩ := by
    norm_num [shallowHole, SolidSpec.Declares, SolidSpec.DeclaresBase, BaseBox.Covers, Centering.range, Removes,
      ThroughHole.Covers, abs_le]
  obtain ⟨plan, -, hholds⟩ := holds_of_build hnames h
  have hpoint := contains_of_find hholds.find_eq ⟨0, 0, 0⟩
  cases hin : plan.tree.contains ⟨0, 0, 0⟩ with
  | true => rw [hpoint, hin]
  | false =>
    rw [hin] at hpoint
    exact absurd hdeclared ((contains_eq_ok_false_iff hnames h _).1 hpoint)

end Store

end SolidDrawing
