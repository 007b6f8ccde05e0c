import Mathlib.Data.List.NodupEquivFin
import SolidDrawing.Proofs.AlikeSolids
import SolidDrawing.Proofs.Material

/-!
# Operations in another order

Which operations a description has decides whether it has a plan, and the plan up to the order of its lists; the order
decides only which error is reported. The solids of two such plans are alike, so that builds of both answer solids that
cannot be told apart (`Store.build_reorder`).
-/

namespace SolidDrawing

open Operation

variable {K : Type}

/-! ### Plans up to order -/

/-- The bases start from the same box, or from the same circles in some order and the same length. -/
inductive Base.SameUpToOrder : Base K → Base K → Prop
  | box (b : BaseBox K) : SameUpToOrder (.box b) (.box b)
  | sketch {profile profile' holes holes' : List (SketchCircle K)} (hprofile : profile.Perm profile')
      (hholes : holes.Perm holes') (length : K) :
      SameUpToOrder (.sketch profile holes length) (.sketch profile' holes' length)

/-- The plans have the same base and the same tools in some order. -/
structure Plan.SameUpToOrder (p q : Plan K) : Prop where
  base : p.base.SameUpToOrder q.base
  cutBoxes : p.cutBoxes.Perm q.cutBoxes
  throughHoles : p.throughHoles.Perm q.throughHoles

/-! ### Sound descriptions -/

theorem Operation.exists_repeats_iff {ops : List (Operation K)} {kind : OperationKind} :
    (∃ i, Repeats ops i kind) ↔ (kind = .extrude ∨ kind = .baseBox) ∧ 2 ≤ (ops.map Operation.kind).count kind := by
  rw [← List.duplicate_iff_two_le_count, List.duplicate_iff_exists_distinct_get]
  constructor
  · rintro ⟨i, hkind, hi, j, hj, hj'⟩
    obtain ⟨hilt, hi⟩ := List.getElem?_eq_some_iff.1 hi
    obtain ⟨hjlt, hj'⟩ := List.getElem?_eq_some_iff.1 hj'
    exact ⟨hkind, ⟨j, hjlt⟩, ⟨i, hilt⟩, hj, hj'.symm, hi.symm⟩
  · rintro ⟨hkind, j, i, hj, hj', hi⟩
    exact ⟨i, hkind, List.getElem?_eq_some_iff.2 ⟨i.2, hi.symm⟩, j, hj, List.getElem?_eq_some_iff.2 ⟨j.2, hj'.symm⟩⟩

variable [Scalar K] {spec spec' : SolidSpec K}

theorem SolidSpec.IsSound.of_perm (h : spec.IsSound) (hp : spec.operations.Perm spec'.operations) :
    spec'.IsSound := by
  refine ⟨fun hnil => h.1 (hnil ▸ hp).eq_nil, fun i hi => ?_⟩
  rcases hi with ⟨kind, hr⟩ | ⟨op, fault, hop, hf⟩
  · have hcount := (hp.map Operation.kind).count_eq kind
    obtain ⟨j, hj⟩ := exists_repeats_iff.2 (hcount ▸ exists_repeats_iff.1 ⟨i, hr⟩)
    exact h.not_repeats j kind hj
  · have hnone := h.fault?_eq_none (hp.mem_iff.2 (List.mem_of_getElem? hop))
    simp [hnone] at hf

/-! ### Plans of reordered descriptions -/

namespace Plan

theorem exists_sameUpToOrder (hp : spec.operations.Perm spec'.operations) {plan : Plan K}
    (h : ofSpec spec = .ok plan) : ∃ plan', ofSpec spec' = .ok plan' ∧ plan.SameUpToOrder plan' := by
  have hverdict := Verdict.of_ofSpec h
  have sound := hverdict.isSound.of_perm hp
  cases hverdict with
  | box _ box noExtrude noCircle =>
    refine ⟨_, ofSpec_of_verdict (.box sound (hp.mem_iff.1 box) (fun e he => noExtrude e (hp.mem_iff.2 he))
      fun c hc => noCircle c (hp.mem_iff.2 hc)), ?_⟩
    exact ⟨.box _, hp.filterMap _, hp.filterMap _⟩
  | sketch _ noBox swept filled =>
    obtain ⟨c, hc, hfilled⟩ := filled
    refine ⟨_, ofSpec_of_verdict (.sketch sound (fun b hb => noBox b (hp.mem_iff.2 hb)) (hp.mem_iff.1 swept)
      ⟨c, hp.mem_iff.1 hc, hfilled⟩), ?_⟩
    exact ⟨.sketch ((hp.filterMap _).filter _) ((hp.filterMap _).filter _) _, hp.filterMap _, hp.filterMap _⟩

end Plan

/-! ### Solids of reordered plans -/

theorem Base.SameUpToOrder.tools_perm {base base' : Base K} (h : base.SameUpToOrder base') :
    base.tools.Perm base'.tools := by
  cases h with
  | box b => exact .refl _
  | sketch _ hholes length => exact hholes.map _

theorem Base.SameUpToOrder.alike {base base' : Base ℝ} (h : base.SameUpToOrder base') :
    base.tree.Alike base'.tree := by
  cases h with
  | box b => exact .refl _
  | sketch hprofile _ length => exact Store.alike_swept (hprofile.map _) _ _ _ _

theorem Plan.SameUpToOrder.tools_perm {plan plan' : Plan K} (h : plan.SameUpToOrder plan') :
    plan.tools.Perm plan'.tools :=
  (h.base.tools_perm.append (h.cutBoxes.map _)).append (h.throughHoles.map _)

theorem Plan.SameUpToOrder.alike {plan plan' : Plan ℝ} (h : plan.SameUpToOrder plan') :
    plan.tree.Alike plan'.tree := by
  rw [tree_eq_foldl, tree_eq_foldl]
  exact h.base.alike.foldl_difference h.tools_perm

/-! ### Builds of reordered descriptions -/

namespace Store

/-- The order of the operations decides neither whether there is a plan, nor what the plan says, nor what can be read
off the solid that a build of it answers. -/
theorem build_reorder :
    (∀ {K : Type} [Scalar K] (spec spec' : SolidSpec K), spec.operations.Perm spec'.operations →
      ((∃ plan, Plan.ofSpec spec = .ok plan) ↔ ∃ plan', Plan.ofSpec spec' = .ok plan') ∧
      ∀ plan plan', Plan.ofSpec spec = .ok plan → Plan.ofSpec spec' = .ok plan' → plan.SameUpToOrder plan') ∧
    ∀ [DecimalText ℝ] (spec spec' : SolidSpec ℝ), spec.operations.Perm spec'.operations →
      ∀ (s s' t t' : Store ℝ) (r r' : SolidRef), s.config = t.config →
      Function.Injective s.names → Function.Injective t.names →
      ((kernel : Kernel ℝ (StateM (Store ℝ))).build spec).run.run s = (.ok r, s') →
      ((kernel : Kernel ℝ (StateM (Store ℝ))).build spec').run.run t = (.ok r', t') →
      (∀ p, ∃ inside, s'.contains r p = .ok inside ∧ t'.contains r' p = .ok inside) ∧
      (∃ box, s'.bounds r = .ok box ∧ t'.bounds r' = .ok box) ∧
      ∃ mass, s'.measure r = .ok mass ∧ t'.measure r' = .ok mass := by
  refine ⟨fun spec spec' hp => ⟨⟨?_, ?_⟩, ?_⟩, ?_⟩
  · rintro ⟨plan, h⟩
    obtain ⟨plan', h', -⟩ := Plan.exists_sameUpToOrder hp h
    exact ⟨plan', h'⟩
  · rintro ⟨plan', h'⟩
    obtain ⟨plan, h, -⟩ := Plan.exists_sameUpToOrder hp.symm h'
    exact ⟨plan, h⟩
  · intro plan plan' h h'
    obtain ⟨other, hother, hsame⟩ := Plan.exists_sameUpToOrder hp h
    obtain rfl := Except.ok.inj (h'.symm.trans hother)
    exact hsame
  · intro _ spec spec' hp s s' t t' r r' hconfig hs ht hbuild hbuild'
    obtain ⟨plan, hplan, hholds⟩ := holds_of_build hs hbuild
    obtain ⟨plan', hplan', hholds'⟩ := holds_of_build ht hbuild'
    obtain ⟨other, hother, hsame⟩ := Plan.exists_sameUpToOrder hp hplan
    obtain rfl := Except.ok.inj (hplan'.symm.trans hother)
    have hconfig' : t'.config = s'.config := by rw [config_of_build hbuild', config_of_build hbuild, hconfig]
    refine ⟨fun p => ⟨_, contains_of_find hholds.find_eq p, ?_⟩, ⟨_, bounds_of_find hholds.find_eq, ?_⟩,
      ⟨_, measure_of_find hholds.find_eq, ?_⟩⟩
    · rw [contains_of_find hholds'.find_eq, hsame.alike.contains_eq]
    · rw [bounds_of_find hholds'.find_eq, hsame.alike.bounds_eq]
    · rw [measure_of_find hholds'.find_eq, hsame.alike.volume_congr, hsame.alike.bounds_eq, hconfig']

/-- A ring with a hole through its wall. -/
noncomputable def piercedRing : SolidSpec ℝ :=
  ⟨"ring", [.sketchCircle ⟨11, false⟩, .sketchCircle ⟨9, true⟩, .extrude ⟨8⟩, .throughHole ⟨1, 12, .x, ⟨0, 0, 1⟩⟩]⟩

private theorem ofSpec_piercedRing : Plan.ofSpec piercedRing =
    .ok ⟨"ring", .sketch [⟨11, false⟩] [⟨9, true⟩] 8, [], [⟨1, 12, .x, ⟨0, 0, 1⟩⟩]⟩ := by
  have hcircle (radius : ℝ) (h : 0 < radius) (isHole : Bool) :
      (sketchCircle ⟨radius, isHole⟩ : Operation ℝ).fault? = none := lengthFault?_eq_none_iff.2 h
  have hextrude : (extrude ⟨8⟩ : Operation ℝ).fault? = none := lengthFault?_eq_none_iff.2 (by norm_num)
  have hhole : (throughHole ⟨1, 12, .x, ⟨0, 0, 1⟩⟩ : Operation ℝ).fault? = none :=
    fault?_throughHole_eq_none_iff.2 (by norm_num)
  simp only [piercedRing, Plan.ofSpec, Buckets.ofSpec, Buckets.addAll, hcircle 11 (by norm_num),
    hcircle 9 (by norm_num), hextrude, hhole]
  rfl

theorem build_reorder_piercedRing : ∃ _ : DecimalText ℝ, ∃ r s' r' t',
    ((kernel : Kernel ℝ (StateM (Store ℝ))).build piercedRing).run.run (empty ⟨8, -1⟩ unaryNames) = (.ok r, s') ∧
      ((kernel : Kernel ℝ (StateM (Store ℝ))).build ⟨"gnir", piercedRing.operations.reverse⟩).run.run
        (empty ⟨8, -1⟩ unaryNames) = (.ok r', t') ∧
      ∃ mass, s'.measure r = .ok mass ∧ t'.measure r' = .ok mass := by
  let text : DecimalText ℝ := ⟨fun _ => ""⟩
  obtain ⟨hplans, hbuilds⟩ := build_reorder
  have hp : piercedRing.operations.Perm (SolidSpec.mk "gnir" piercedRing.operations.reverse).operations :=
    (List.reverse_perm _).symm
  have hempty : (empty ⟨8, -1⟩ unaryNames : Store ℝ).config.emptyVolume < 0 := neg_one_lt_zero
  obtain ⟨plan, hplan⟩ := (hplans _ _ hp).1.1 ⟨_, ofSpec_piercedRing⟩
  obtain ⟨r, s', h⟩ := exists_build_eq_ok unaryNames_injective hempty ofSpec_piercedRing
  obtain ⟨r', t', h'⟩ := exists_build_eq_ok unaryNames_injective hempty hplan
  obtain ⟨-, -, hmass⟩ :=
    hbuilds _ _ hp _ s' _ t' r r' rfl unaryNames_injective unaryNames_injective h h'
  exact ⟨text, r, s', r', t', h, h', hmass⟩

end Store

end SolidDrawing
