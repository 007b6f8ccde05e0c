import SolidDrawing.Proofs.PlanRules
import SolidDrawing.Proofs.Regions
import SolidDrawing.Proofs.Volumes

/-!
# The material that a description declares

`SolidSpec.Declares` says of a point, by the parameters of the operations alone, whether it is material: it lies in the
base, and no cut and no through-hole reaches it. A build that succeeds makes exactly these points
(`Store.contains_build_iff`).
-/

namespace SolidDrawing

open Operation

/-! ### What operations cover -/

/-- The point lies in the box that a base box describes. -/
def BaseBox.Covers (b : BaseBox ℝ) (p : Vec3 ℝ) : Prop :=
  p.x ∈ Centering.range b.centeredXy b.width ∧ p.y ∈ Centering.range b.centeredXy b.depth ∧
    p.z ∈ Centering.range b.centeredZ b.height

/-- The point lies in the box that a cut takes away. -/
def CutBox.Covers (c : CutBox ℝ) (p : Vec3 ℝ) : Prop :=
  p.x - c.center.x ∈ Centering.range true c.width ∧ p.y - c.center.y ∈ Centering.range true c.depth ∧
    p.z - c.center.z ∈ Centering.range true c.height

/-- The point lies in the cylinder that a through-hole takes away. -/
def ThroughHole.Covers (h : ThroughHole ℝ) (p : Vec3 ℝ) : Prop :=
  match h.axis with
  | .x => |p.x - h.center.x| ≤ h.depth ∧ (p.y - h.center.y) ^ 2 + (p.z - h.center.z) ^ 2 ≤ h.radius ^ 2
  | .y => |p.y - h.center.y| ≤ h.depth ∧ (p.x - h.center.x) ^ 2 + (p.z - h.center.z) ^ 2 ≤ h.radius ^ 2
  | .z => |p.z - h.center.z| ≤ h.depth ∧ (p.x - h.center.x) ^ 2 + (p.y - h.center.y) ^ 2 ≤ h.radius ^ 2

/-- The operation takes the point away, wherever it stands among the others. -/
def Operation.Removes (p : Vec3 ℝ) : Operation ℝ → Prop
  | cutBox c => c.Covers p
  | throughHole h => h.Covers p
  | _ => False

namespace SolidSpec

/-- The point lies in the base box, or in the sketch swept along the length of the extrusion. -/
def DeclaresBase (spec : SolidSpec ℝ) (p : Vec3 ℝ) : Prop :=
  (∃ b, baseBox b ∈ spec.operations ∧ b.Covers p) ∨
    ∃ e, extrude e ∈ spec.operations ∧ (0 ≤ p.z ∧ p.z ≤ e.length) ∧
      (∃ c, sketchCircle c ∈ spec.operations ∧ c.isHole = false ∧ p.x ^ 2 + p.y ^ 2 ≤ c.radius ^ 2) ∧
      ∀ c, sketchCircle c ∈ spec.operations → c.isHole = true → c.radius ^ 2 < p.x ^ 2 + p.y ^ 2

/-- The point is material of the solid that is described. -/
def Declares (spec : SolidSpec ℝ) (p : Vec3 ℝ) : Prop :=
  spec.DeclaresBase p ∧ ∀ op ∈ spec.operations, ¬ op.Removes p

end SolidSpec

/-! ### Checked parameters -/

theorem lengthFault?_eq_none_iff {field : String} {value : ℝ} : lengthFault? field value = none ↔ 0 < value := by
  simp [lengthFault?]

theorem sizeFault?_eq_none_iff {size : Vec3 ℝ} : sizeFault? size = none ↔ size.isPositive = true := by
  simp [sizeFault?, lengthFault?_eq_none_iff, Vec3.isPositive_iff]

theorem fault?_baseBox_eq_none_iff {b : BaseBox ℝ} : (baseBox b).fault? = none ↔ b.size.isPositive = true :=
  sizeFault?_eq_none_iff

theorem fault?_cutBox_eq_none_iff {c : CutBox ℝ} : (cutBox c).fault? = none ↔ c.size.isPositive = true := by
  simp [fault?, sizeFault?_eq_none_iff, pointFault?, Vec3.isFinite]

theorem fault?_throughHole_eq_none_iff {h : ThroughHole ℝ} :
    (throughHole h).fault? = none ↔ 0 < h.radius ∧ 0 < h.depth := by
  simp [fault?, lengthFault?_eq_none_iff, pointFault?, Vec3.isFinite]

theorem Profile.fault?_eq_none_iff {K : Type} [Scalar K] {p : Profile K} :
    p.fault? = none ↔ p.circles ≠ [] ∧ ∀ c ∈ p.circles, c.isProper = true := by
  rw [fault?]
  cases hp : p.circles with
  | nil => simp
  | cons c cs => simp

theorem Circle.isProper_iff {c : Circle ℝ} : c.isProper = true ↔ 0 < c.radius := by
  simp [isProper, Vec2.isFinite]

theorem CutBox.isProper_of_mem_steps {c : CutBox ℝ} (hc : (cutBox c).fault? = none) :
    ∀ step ∈ c.steps, step.IsProper := by
  simpa [steps, BuildStep.IsProper, size] using fault?_cutBox_eq_none_iff.1 hc

theorem ThroughHole.isProper_of_mem_steps {h : ThroughHole ℝ} (hh : (throughHole h).fault? = none) :
    ∀ step ∈ h.steps, step.IsProper := by
  simpa [steps, BuildStep.IsProper, Profile.fault?_eq_none_iff, Circle.isProper_iff] using
    fault?_throughHole_eq_none_iff.1 hh

/-! ### Bases and tools -/

namespace Base

theorem contains_tree_box {b : BaseBox ℝ} (hb : (baseBox b).fault? = none) {p : Vec3 ℝ} :
    (Base.box b).tree.contains p = true ↔ b.Covers p := by
  rw [tree, Solid.contains_cuboid, Box.contains_minCorner (fault?_baseBox_eq_none_iff.1 hb)]
  rfl

end Base

/-- The points of circles around the origin that are swept upwards. -/
theorem SketchCircle.contains_swept_iff {circles : List (SketchCircle ℝ)} {length : ℝ} {p : Vec3 ℝ} :
    (Store.swept (SketchCircle.profile circles) length .positive).contains p = true ↔
      (0 ≤ p.z ∧ p.z ≤ length) ∧ ∃ c ∈ circles, p.x ^ 2 + p.y ^ 2 ≤ c.radius ^ 2 := by
  rw [Store.contains_swept_iff]
  simp [SketchCircle.profile, Direction.span, Plane.toLocal, Vec2.zero]

theorem CutBox.contains_tool_iff {c : CutBox ℝ} (hc : (cutBox c).fault? = none) {p : Vec3 ℝ} :
    c.tool.contains p = true ↔ c.Covers p := by
  rw [tool, Solid.contains_translated, Solid.contains_cuboid,
    Box.contains_minCorner (fault?_cutBox_eq_none_iff.1 hc)]
  rfl

theorem ThroughHole.contains_tool_iff {h : ThroughHole ℝ} {p : Vec3 ℝ} : h.tool.contains p = true ↔ h.Covers p := by
  have hspan (c x : ℝ) : (c + -h.depth ≤ x ∧ x ≤ c + h.depth) ↔ |x - c| ≤ h.depth := by
    rw [abs_le]
    constructor <;> rintro ⟨h₁, h₂⟩ <;> constructor <;> linarith
  rw [tool, Store.contains_swept_iff, Direction.span_symmetric_mul_two, hspan, Covers]
  cases haxis : h.axis <;> simp [profile, haxis, Axis.plane, Plane.toLocal]

/-! ### Plans -/

namespace Plan.Verdict

variable {spec : SolidSpec ℝ} {plan : Plan ℝ}

/-- What is left of a base after its own holes. -/
theorem contains_base_iff (h : Verdict spec (.ok plan)) {p : Vec3 ℝ} :
    (plan.base.tree.contains p = true ∧ ∀ tool ∈ plan.base.tools, tool.contains p = false) ↔
      spec.DeclaresBase p := by
  have hsound := h.isSound
  cases h with
  | @box b _ hbox noExtrude _ =>
    have hrange := Base.contains_tree_box (hsound.fault?_eq_none hbox) (p := p)
    simp only [Base.tools, List.not_mem_nil, false_imp_iff, implies_true, and_true, hrange]
    constructor
    · exact fun hp => .inl ⟨b, hbox, hp⟩
    · rintro (⟨b', hb', hp⟩ | ⟨e, he, -⟩)
      · exact baseBox_unique hsound.not_repeats hbox hb' ▸ hp
      · exact absurd he (noExtrude e)
  | @sketch e _ noBox swept _ =>
    rw [Base.tree, Base.tools, SketchCircle.contains_swept_iff, List.forall_mem_map]
    simp only [← Bool.not_eq_true, SketchCircle.contains_swept_iff, List.mem_filter, mem_filterMap_circle?,
      List.mem_singleton, exists_eq_left, not_and, not_le]
    -- a hole is as long as the base, so that within the base only the distance from the axis counts
    constructor
    · rintro ⟨⟨hz, c, ⟨hc, hfilled⟩, hr⟩, hholes⟩
      exact .inr ⟨e, swept, hz, ⟨c, hc, by simpa using hfilled, hr⟩, fun c hc hhole => hholes c ⟨hc, hhole⟩ hz⟩
    · rintro (⟨b, hb, -⟩ | ⟨e', he', hz, ⟨c, hc, hfilled, hr⟩, hholes⟩)
      · exact absurd hb (noBox b)
      · obtain rfl := extrude_unique hsound.not_repeats swept he'
        exact ⟨⟨hz, c, ⟨hc, by simp [hfilled]⟩, hr⟩, fun c hc _ => hholes c hc.1 hc.2⟩

/-- The tools reach what the operations remove. -/
theorem contains_tools_iff (h : Verdict spec (.ok plan)) {p : Vec3 ℝ} :
    (∀ tool ∈ plan.cutBoxes.map CutBox.tool ++ plan.throughHoles.map ThroughHole.tool, tool.contains p = false) ↔
      ∀ op ∈ spec.operations, ¬ op.Removes p := by
  simp only [h.cutBoxes_eq, h.throughHoles_eq, List.forall_mem_append, List.forall_mem_map, mem_filterMap_cutBox?,
    mem_filterMap_throughHole?, ← Bool.not_eq_true]
  constructor
  · rintro ⟨hcuts, hholes⟩ op hop
    cases op with
    | cutBox c => exact fun hc => hcuts c hop ((CutBox.contains_tool_iff (h.isSound.fault?_eq_none hop)).2 hc)
    | throughHole c => exact fun hc => hholes c hop (ThroughHole.contains_tool_iff.2 hc)
    | _ => exact id
  · intro hops
    refine ⟨fun c hop hc => hops _ hop ?_, fun c hop hc => hops _ hop ?_⟩
    · exact (CutBox.contains_tool_iff (h.isSound.fault?_eq_none hop)).1 hc
    · exact ThroughHole.contains_tool_iff.1 hc

theorem contains_tree_iff (h : Verdict spec (.ok plan)) {p : Vec3 ℝ} :
    plan.tree.contains p = true ↔ spec.Declares p := by
  rw [tree_eq_foldl, Solid.contains_foldl_difference, tools, List.append_assoc, List.forall_mem_append, ← and_assoc,
    h.contains_base_iff, h.contains_tools_iff]
  rfl

/-- The kernel takes the parameters of every step. -/
theorem isProper_of_mem_steps (h : Verdict spec (.ok plan)) : ∀ step ∈ plan.steps, step.IsProper := by
  have hsound := h.isSound
  have hcuts : ∀ c ∈ plan.cutBoxes, ∀ step ∈ c.steps, step.IsProper := fun c hc =>
    CutBox.isProper_of_mem_steps (hsound.fault?_eq_none (mem_filterMap_cutBox?.1 (h.cutBoxes_eq ▸ hc)))
  have hthrough : ∀ c ∈ plan.throughHoles, ∀ step ∈ c.steps, step.IsProper := fun c hc =>
    ThroughHole.isProper_of_mem_steps (hsound.fault?_eq_none (mem_filterMap_throughHole?.1 (h.throughHoles_eq ▸ hc)))
  have hradius : ∀ c ∈ spec.operations.filterMap circle?, 0 < c.radius := fun c hc =>
    lengthFault?_eq_none_iff.1 (hsound.fault?_eq_none (mem_filterMap_circle?.1 hc))
  simp only [steps, further, List.forall_mem_cons, List.forall_mem_append, List.forall_mem_flatMap]
  refine ⟨?_, ⟨?_, hcuts⟩, hthrough⟩
  · cases h with
    | box _ hbox => exact fault?_baseBox_eq_none_iff.1 (hsound.fault?_eq_none hbox)
    | @sketch e _ _ swept filled =>
      obtain ⟨c, hc, hfilled⟩ := filled
      refine ⟨Profile.fault?_eq_none_iff.2 ⟨?_, ?_⟩, ?_⟩
      · exact fun hnil => by simpa [hfilled] using filter_circles_eq_nil.1 (List.map_eq_nil_iff.1 hnil) c hc
      · exact List.forall_mem_map.2 fun c hc => Circle.isProper_iff.2 (hradius c (List.mem_of_mem_filter hc))
      · simpa using lengthFault?_eq_none_iff.1 (hsound.fault?_eq_none swept)
  · cases h with
    | box => simp [Base.steps]
    | @sketch e _ _ swept _ =>
      have hlength : 0 < e.length := lengthFault?_eq_none_iff.1 (hsound.fault?_eq_none swept)
      simp only [Base.steps, List.forall_mem_flatMap]
      intro hole hmem
      simpa [BuildStep.IsProper, Profile.fault?_eq_none_iff, Circle.isProper_iff] using
        ⟨hradius hole (List.mem_of_mem_filter hmem), hlength⟩

end Plan.Verdict

/-! ### Builds -/

namespace Store

/-- Where no solid counts as empty, every plan can be carried out. -/
theorem exists_build_eq_ok [DecimalText ℝ] {s : Store ℝ} (hn : Function.Injective s.names)
    (hempty : s.config.emptyVolume < 0) {spec : SolidSpec ℝ} {plan : Plan ℝ} (hp : Plan.ofSpec spec = .ok plan) :
    ∃ r s', ((kernel : Kernel ℝ (StateM (Store ℝ))).build spec).run.run s = (.ok r, s') := by
  rcases build_cases hn hp (Plan.Verdict.of_ofSpec hp).isProper_of_mem_steps with h | ⟨pre, post, -, hv, -⟩
  · exact h
  · exact absurd ((Solid.volume_nonneg _ _).trans hv) (not_le.2 hempty)

/-- A block with a notch in its top and a hole along the `x` axis. -/
noncomputable def notchedBlock : SolidSpec ℝ :=
  ⟨"block", [.baseBox ⟨4, 4, 4, true, false⟩, .cutBox ⟨1, 1, 1, ⟨0, 0, 4⟩⟩, .throughHole ⟨1, 3, .x, ⟨0, 1, 1⟩⟩]⟩

private theorem ofSpec_notchedBlock : Plan.ofSpec notchedBlock =
    .ok ⟨"block", .box ⟨4, 4, 4, true, false⟩, [⟨1, 1, 1, ⟨0, 0, 4⟩⟩], [⟨1, 3, .x, ⟨0, 1, 1⟩⟩]⟩ := by
  have hbox : (baseBox ⟨4, 4, 4, true, false⟩ : Operation ℝ).fault? = none :=
    fault?_baseBox_eq_none_iff.2 (by simp [Vec3.isPositive_iff, BaseBox.size])
  have hcut : (cutBox ⟨1, 1, 1, ⟨0, 0, 4⟩⟩ : Operation ℝ).fault? = none :=
    fault?_cutBox_eq_none_iff.2 (by simp [Vec3.isPositive_iff, CutBox.size])
  have hhole : (throughHole ⟨1, 3, .x, ⟨0, 1, 1⟩⟩ : Operation ℝ).fault? = none :=
    fault?_throughHole_eq_none_iff.2 (by simp)
  simp only [notchedBlock, Plan.ofSpec, Buckets.ofSpec, Buckets.addAll, hbox, hcut, hhole]
  rfl

/-- The solid of a build contains exactly the points that its description declares. -/
theorem contains_build_iff [DecimalText ℝ] {s s' : Store ℝ} (hn : Function.Injective s.names) {spec : SolidSpec ℝ}
    {r : SolidRef} (h : ((kernel : Kernel ℝ (StateM (Store ℝ))).build spec).run.run s = (.ok r, s')) (p : Vec3 ℝ) :
    ∃ inside, s'.contains r p = .ok inside ∧ (inside = true ↔ spec.Declares p) := by
  obtain ⟨plan, hplan, hholds⟩ := holds_of_build hn h
  refine ⟨plan.tree.contains p, ?_, (hplan ▸ Plan.verdict_ofSpec spec).contains_tree_iff⟩
  rw [contains, hholds.find_eq]
  rfl

theorem contains_build_iff_notchedBlock : ∃ _ : DecimalText ℝ, ∃ r s',
    ((kernel : Kernel ℝ (StateM (Store ℝ))).build notchedBlock).run.run (empty ⟨0, -1⟩ unaryNames) = (.ok r, s') ∧
      s'.contains r ⟨2, 2, 4⟩ = .ok true ∧ s'.contains r ⟨0, 0, 4⟩ = .ok false ∧
      s'.contains r ⟨2, 1, 2⟩ = .ok false := by
  let text : DecimalText ℝ := ⟨fun _ => ""⟩
  have hempty : (empty ⟨0, -1⟩ unaryNames : Store ℝ).config.emptyVolume < 0 := neg_one_lt_zero
  obtain ⟨r, s', h⟩ := exists_build_eq_ok unaryNames_injective hempty ofSpec_notchedBlock
  have hpoint (p : Vec3 ℝ) (inside : Bool) (hp : inside = true ↔ notchedBlock.Declares p) :
      s'.contains r p = .ok inside := by
    obtain ⟨inside', hr, hp'⟩ := contains_build_iff unaryNames_injective h p
    rw [hr, Bool.eq_iff_iff.2 (hp'.trans hp.symm)]
  refine ⟨text, r, s', h, hpoint _ true ?_, hpoint _ false ?_, hpoint _ false ?_⟩ <;>
    norm_num [notchedBlock, SolidSpec.Declares, SolidSpec.DeclaresBase, BaseBox.Covers, Centering.range, Removes,
      CutBox.Covers, ThroughHole.Covers, abs_le]

end Store

end SolidDrawing
