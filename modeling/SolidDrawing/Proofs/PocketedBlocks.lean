import SolidDrawing.Proofs.BoxVolumes
import SolidDrawing.Proofs.OperationOrder

/-!
# Blocks with pockets

A description that takes boxes away from a block is built by one cut after the other, and what is left is measured after
each of them. Between boxes the measured volume is the true one, whatever the grid is, and a cut leaves no more than
there was. So a build succeeds if and only if all cuts together leave enough (`Store.build_block_iff`); how the boxes
overlap, how far they reach out of the block and which of them comes first make no difference.
-/

namespace SolidDrawing

open MeasureTheory Operation

/-! ### Performing a script -/

namespace Held

section

variable {K : Type} [Scalar K]

/-- A step adds no point to what there is. -/
theorem contains_current_of_after {h : Held (Solid K)} {step : BuildStep K} {p : Vec3 K}
    (hp : (h.after step (step.tree h)).current.contains p = true) : h.current.contains p = true := by
  cases step with
  | subtract =>
    have hdifference : (Solid.difference h.current h.latest).contains p = true := hp
    rw [Solid.contains_difference, Bool.and_eq_true] at hdifference
    exact hdifference.1
  | _ => exact hp

theorem contains_current_of_perform (steps : List (BuildStep K)) {h : Held (Solid K)} {p : Vec3 K}
    (hp : (h.perform steps).current.contains p = true) : h.current.contains p = true := by
  induction steps generalizing h with
  | nil => exact hp
  | cons step steps ih => exact contains_current_of_after (ih hp)

end

/-- What is held is made of boxes. -/
structure OfBoxes (h : Held (Solid ℝ)) : Prop where
  current : h.current.OfBoxes
  latest : h.latest.OfBoxes

theorem OfBoxes.after {h : Held (Solid ℝ)} (hh : h.OfBoxes) {step : BuildStep ℝ}
    (hstep : ∀ profile distance direction, step ≠ .extrude profile distance direction) :
    (h.after step (step.tree h)).OfBoxes := by
  cases step with
  | extrude profile distance direction => exact absurd rfl (hstep _ _ _)
  | createBox size centering => exact ⟨hh.current, Solid.ofBoxes_cuboid _⟩
  | translate offset => exact ⟨hh.current, hh.latest.translated offset⟩
  | subtract => exact ⟨hh.current.difference hh.latest, hh.current.difference hh.latest⟩

/-- Without a sweep only boxes come up. -/
theorem OfBoxes.perform {steps : List (BuildStep ℝ)}
    (hsteps : ∀ step ∈ steps, ∀ profile distance direction, step ≠ .extrude profile distance direction)
    {h : Held (Solid ℝ)} (hh : h.OfBoxes) : (h.perform steps).OfBoxes := by
  induction steps generalizing h with
  | nil => exact hh
  | cons step steps ih =>
    rw [List.forall_mem_cons] at hsteps
    exact ih hsteps.2 (hh.after hsteps.1)

end Held

/-! ### Blocks -/

namespace SolidSpec

/-- The description has a plan, which starts from the block, takes boxes away from it, and does nothing else. -/
structure CutsBlock (spec : SolidSpec ℝ) (block : BaseBox ℝ) : Prop where
  exists_plan : ∃ plan, Plan.ofSpec spec = .ok plan
  block_mem : baseBox block ∈ spec.operations
  eq_cutBox : ∀ op ∈ spec.operations, op = baseBox block ∨ ∃ c, op = cutBox c
  exists_cutBox : ∃ c, cutBox c ∈ spec.operations

/-- The points of the block that lie in none of the boxes. -/
def remainder (spec : SolidSpec ℝ) (block : BaseBox ℝ) : Set (ℝ × ℝ × ℝ) :=
  {p | block.Covers ⟨p.1, p.2.1, p.2.2⟩ ∧ ∀ c, cutBox c ∈ spec.operations → ¬ c.Covers ⟨p.1, p.2.1, p.2.2⟩}

variable {spec spec' : SolidSpec ℝ} {block : BaseBox ℝ}

theorem CutsBlock.of_perm (h : spec.CutsBlock block) (hp : spec.operations.Perm spec'.operations) :
    spec'.CutsBlock block where
  exists_plan := by
    obtain ⟨plan, hplan⟩ := h.exists_plan
    obtain ⟨plan', hplan', -⟩ := Plan.exists_sameUpToOrder hp hplan
    exact ⟨plan', hplan'⟩
  block_mem := hp.mem_iff.1 h.block_mem
  eq_cutBox op hop := h.eq_cutBox op (hp.mem_iff.2 hop)
  exists_cutBox := h.exists_cutBox.imp fun _ hc => hp.mem_iff.1 hc

theorem remainder_congr (hp : spec.operations.Perm spec'.operations) :
    spec.remainder block = spec'.remainder block := by
  simp only [remainder, hp.mem_iff]

namespace CutsBlock

variable {plan : Plan ℝ}

theorem plan_eq (h : spec.CutsBlock block) (hp : Plan.ofSpec spec = .ok plan) :
    plan = ⟨spec.id, .box block, spec.operations.filterMap cutBox?, []⟩ := by
  cases Plan.Verdict.of_ofSpec hp with
  | box sound box =>
    obtain rfl := baseBox_unique sound.not_repeats h.block_mem box
    have hholes : spec.operations.filterMap throughHole? = [] := by
      refine List.filterMap_eq_nil_iff.2 fun op hop => ?_
      rcases h.eq_cutBox op hop with rfl | ⟨c, rfl⟩
      · rfl
      · rfl
    rw [hholes]
  | sketch sound noBox => exact absurd h.block_mem (noBox block)

theorem declares_iff (h : spec.CutsBlock block) (hp : Plan.ofSpec spec = .ok plan) {p : Vec3 ℝ} :
    spec.Declares p ↔ block.Covers p ∧ ∀ c, cutBox c ∈ spec.operations → ¬ c.Covers p := by
  have hbase : spec.DeclaresBase p ↔ block.Covers p := by
    constructor
    · rintro (⟨b, hb, hcovers⟩ | ⟨e, he, -⟩)
      · exact baseBox_unique (Plan.Verdict.of_ofSpec hp).isSound.not_repeats h.block_mem hb ▸ hcovers
      · simpa using h.eq_cutBox _ he
    · exact fun hcovers => .inl ⟨block, h.block_mem, hcovers⟩
  rw [SolidSpec.Declares, hbase]
  refine and_congr_right fun _ => ⟨fun hops c hc => hops _ hc, fun hcuts op hop => ?_⟩
  rcases h.eq_cutBox op hop with rfl | ⟨c, rfl⟩
  · exact fun hremoves => hremoves
  · exact hcuts c hop

theorem region_tree (h : spec.CutsBlock block) (hp : Plan.ofSpec spec = .ok plan) :
    plan.tree.region = spec.remainder block := by
  ext p
  rw [Solid.mem_region, (Plan.Verdict.of_ofSpec hp).contains_tree_iff, h.declares_iff hp]
  rfl

/-- The last thing that is done is a cut. -/
theorem exists_last_cut (h : spec.CutsBlock block) (hp : Plan.ofSpec spec = .ok plan) :
    ∃ pre, plan.further = pre ++ [.subtract] := by
  obtain rfl := h.plan_eq hp
  obtain ⟨c, hc⟩ := h.exists_cutBox
  have hne : spec.operations.filterMap cutBox? ≠ [] := List.ne_nil_of_mem (mem_filterMap_cutBox?.2 hc)
  obtain ⟨cuts, last, hcuts⟩ := (List.eq_nil_or_concat' _).resolve_left hne
  refine ⟨cuts.flatMap CutBox.steps ++ [.createBox ⟨last.width, last.depth, last.height⟩ ⟨true, true⟩,
    .translate last.center], ?_⟩
  simp [Plan.further, Base.steps, hcuts, CutBox.steps]

theorem ofBoxes_perform (h : spec.CutsBlock block) (hp : Plan.ofSpec spec = .ok plan) {pre post : List (BuildStep ℝ)}
    (hsplit : plan.further = pre ++ post) : (Held.perform ⟨plan.base.tree, plan.base.tree⟩ pre).OfBoxes := by
  obtain rfl := h.plan_eq hp
  refine Held.OfBoxes.perform (fun step hstep => ?_) ⟨Solid.ofBoxes_cuboid _, Solid.ofBoxes_cuboid _⟩
  have hmem : step ∈ pre ++ post := List.mem_append_left post hstep
  rw [← hsplit] at hmem
  simp only [Plan.further, Base.steps, List.nil_append, List.flatMap_nil, List.append_nil, List.mem_flatMap] at hmem
  obtain ⟨c, -, hc⟩ := hmem
  simp only [CutBox.steps, List.mem_cons, List.not_mem_nil, or_false] at hc
  rcases hc with rfl | rfl | rfl <;> simp

/-- No cut on the way leaves less than all of them do. -/
theorem volume_remainder_le (h : spec.CutsBlock block) (hp : Plan.ofSpec spec = .ok plan)
    {pre post : List (BuildStep ℝ)} (hsplit : plan.further = pre ++ .subtract :: post) (samples : Nat) :
    volume (spec.remainder block) ≤ ENNReal.ofReal
      ((BuildStep.subtract.tree (Held.perform ⟨plan.base.tree, plan.base.tree⟩ pre)).volume samples) := by
  have hboxes := h.ofBoxes_perform hp hsplit
  rw [← h.region_tree hp, BuildStep.tree, ← (hboxes.current.difference hboxes.latest).volume_region_eq_volume]
  refine measure_mono fun p hin => ?_
  rw [Solid.mem_region, Plan.tree, hsplit, Held.perform_append] at hin
  -- the rest of the script begins with the cut
  exact Held.contains_current_of_perform post hin

theorem volume_remainder_eq (h : spec.CutsBlock block) (hp : Plan.ofSpec spec = .ok plan) (samples : Nat) :
    volume (spec.remainder block) = ENNReal.ofReal (plan.tree.volume samples) := by
  rw [← h.region_tree hp, Plan.tree]
  exact (h.ofBoxes_perform hp (List.append_nil _).symm).current.volume_region_eq_volume samples

end CutsBlock

end SolidSpec

/-! ### Builds -/

namespace Store

section

variable [DecimalText ℝ]

/-- The description is built, and not refused. -/
def Builds (s : Store ℝ) (spec : SolidSpec ℝ) : Prop :=
  ∃ r s', ((kernel : Kernel ℝ (StateM (Store ℝ))).build spec).run.run s = (.ok r, s')

theorem builds_iff_lt_volume {s : Store ℝ} (hn : Function.Injective s.names) (hempty : 0 ≤ s.config.emptyVolume)
    {spec : SolidSpec ℝ} {block : BaseBox ℝ} (h : spec.CutsBlock block) :
    s.Builds spec ↔ ENNReal.ofReal s.config.emptyVolume < volume (spec.remainder block) := by
  obtain ⟨plan, hp⟩ := h.exists_plan
  constructor
  · rintro ⟨r, s', hbuild⟩
    obtain ⟨pre, hsplit⟩ := h.exists_last_cut hp
    have hcut := not_volume_le_of_build hn hp hbuild hsplit
    have htree : plan.tree = BuildStep.subtract.tree (Held.perform ⟨plan.base.tree, plan.base.tree⟩ pre) := by
      rw [Plan.tree, hsplit, Held.perform_append]
      rfl
    rw [h.volume_remainder_eq hp s.config.samples, htree, ENNReal.ofReal_lt_ofReal_iff_of_nonneg hempty]
    exact not_le.1 hcut
  · intro hleft
    rcases build_cases hn hp (Plan.Verdict.of_ofSpec hp).isProper_of_mem_steps with
      hbuild | ⟨pre, post, hsplit, hcut, -⟩
    · exact hbuild
    · have hle := (h.volume_remainder_le hp hsplit s.config.samples).trans (ENNReal.ofReal_le_ofReal hcut)
      exact absurd hleft (not_lt.2 hle)

/-- A block is built with its pockets if and only if they leave more than counts as empty, and is refused at a cut
otherwise. The order of the operations does not matter to that, and what is measured is what is left. -/
theorem build_block_iff {s : Store ℝ} (hn : Function.Injective s.names) (hempty : 0 ≤ s.config.emptyVolume)
    {spec : SolidSpec ℝ} {block : BaseBox ℝ} (h : spec.CutsBlock block) :
    (s.Builds spec ↔ ENNReal.ofReal s.config.emptyVolume < volume (spec.remainder block)) ∧
      (¬ s.Builds spec → ∃ reason s', ((kernel : Kernel ℝ (StateM (Store ℝ))).build spec).run.run s =
        (.error (.kernel spec.id (.booleanFailed reason)), s')) ∧
      (∀ spec' : SolidSpec ℝ, spec.operations.Perm spec'.operations → ∀ t : Store ℝ, Function.Injective t.names →
        t.config.emptyVolume = s.config.emptyVolume → (t.Builds spec' ↔ s.Builds spec)) ∧
      ∀ r s', ((kernel : Kernel ℝ (StateM (Store ℝ))).build spec).run.run s = (.ok r, s') →
        ∃ mass, s'.measure r = .ok mass ∧ 0 ≤ mass.volume ∧
          volume (spec.remainder block) = ENNReal.ofReal mass.volume := by
  have hiff := builds_iff_lt_volume hn hempty h
  refine ⟨hiff, fun hfails => ?_, fun spec' hperm t ht hconfig => ?_, fun r s' hbuild => ?_⟩
  · obtain ⟨plan, hp⟩ := h.exists_plan
    rcases build_cases hn hp (Plan.Verdict.of_ofSpec hp).isProper_of_mem_steps with
      hbuild | ⟨-, -, -, -, hrefused⟩
    · exact absurd hbuild hfails
    · exact hrefused
  · rw [hiff, builds_iff_lt_volume ht (hconfig ▸ hempty) (h.of_perm hperm), hconfig, SolidSpec.remainder_congr hperm]
  · obtain ⟨plan, hp, hholds⟩ := holds_of_build hn hbuild
    exact ⟨_, measure_of_find hholds.find_eq, Solid.volume_nonneg .., h.volume_remainder_eq hp _⟩

end

/-- A block with two pockets in its top, which overlap and reach out of it. -/
noncomputable def pocketedBlock : SolidSpec ℝ :=
  ⟨"block", [.cutBox ⟨20, 20, 20, ⟨0, 0, 40⟩⟩, .baseBox ⟨40, 40, 40, true, false⟩, .cutBox ⟨40, 20, 20, ⟨20, 0, 40⟩⟩]⟩

private theorem cutsBlock_pocketedBlock : pocketedBlock.CutsBlock ⟨40, 40, 40, true, false⟩ where
  exists_plan := by
    have hbox : (baseBox ⟨40, 40, 40, true, false⟩ : Operation ℝ).fault? = none :=
      fault?_baseBox_eq_none_iff.2 (by simp [Vec3.isPositive_iff, BaseBox.size])
    have hcut (width : ℝ) (h : 0 < width) (center : Vec3 ℝ) :
        (cutBox ⟨width, 20, 20, center⟩ : Operation ℝ).fault? = none :=
      fault?_cutBox_eq_none_iff.2 (by simp [Vec3.isPositive_iff, CutBox.size, h])
    refine ⟨⟨"block", .box ⟨40, 40, 40, true, false⟩, [⟨20, 20, 20, ⟨0, 0, 40⟩⟩, ⟨40, 20, 20, ⟨20, 0, 40⟩⟩], []⟩, ?_⟩
    simp only [pocketedBlock, Plan.ofSpec, Buckets.ofSpec, Buckets.addAll, hbox, hcut 20 (by norm_num),
      hcut 40 (by norm_num)]
    rfl
  block_mem := by simp [pocketedBlock]
  eq_cutBox := by simp [pocketedBlock]
  exists_cutBox := ⟨_, List.mem_cons_self⟩

private theorem remainder_pocketedBlock : pocketedBlock.remainder ⟨40, 40, 40, true, false⟩ =
    (Solid.difference (.cuboid ⟨⟨-20, -20, 0⟩, ⟨20, 20, 40⟩⟩) (.cuboid ⟨⟨-10, -10, 30⟩, ⟨20, 10, 40⟩⟩)).region := by
  ext ⟨x, y, z⟩
  have hcuts : (∀ c, cutBox c ∈ pocketedBlock.operations → ¬ c.Covers ⟨x, y, z⟩) ↔
      ¬ CutBox.Covers ⟨20, 20, 20, ⟨0, 0, 40⟩⟩ ⟨x, y, z⟩ ∧ ¬ CutBox.Covers ⟨40, 20, 20, ⟨20, 0, 40⟩⟩ ⟨x, y, z⟩ := by
    simp [pocketedBlock]
  rw [SolidSpec.remainder, Set.mem_ofPred_eq, hcuts, Solid.mem_region, Solid.contains_difference, Bool.and_eq_true,
    Bool.not_eq_true', ← Bool.not_eq_true, Solid.contains_cuboid, Solid.contains_cuboid, Box.contains_iff,
    Box.contains_iff]
  simp only [BaseBox.Covers, CutBox.Covers, Centering.range]
  norm_num
  grind

private theorem volume_remainder_pocketedBlock :
    volume (pocketedBlock.remainder ⟨40, 40, 40, true, false⟩) = ENNReal.ofReal 58000 := by
  rw [remainder_pocketedBlock, Solid.region_difference, measure_sdiff ?_
    (Solid.measurableSet_region _).nullMeasurableSet, Solid.volume_region_cuboid, Solid.volume_region_cuboid]
  · norm_num [Box.size]
    exact ENNReal.sub_eq_of_eq_add (by norm_num) (by norm_num)
  · rw [Solid.volume_region_cuboid]
    norm_num [Box.size]
  · intro p hp
    rw [Solid.mem_region, Solid.contains_cuboid, Box.contains_iff] at hp ⊢
    norm_num at hp ⊢
    grind

/-- The pockets take as much away as one box around both would take away of the block. -/
theorem build_block_iff_pocketedBlock : ∃ _ : DecimalText ℝ, ∃ r s' mass,
    ((kernel : Kernel ℝ (StateM (Store ℝ))).build pocketedBlock).run.run (empty ⟨256, 1 / 10 ^ 9⟩ unaryNames) =
        (.ok r, s') ∧
      s'.measure r = .ok mass ∧ mass.volume = 58000 := by
  let text : DecimalText ℝ := ⟨fun _ => ""⟩
  obtain ⟨hiff, -, -, hmeasure⟩ := build_block_iff (s := empty ⟨256, 1 / 10 ^ 9⟩ unaryNames) unaryNames_injective
    (by norm_num [empty]) cutsBlock_pocketedBlock
  rw [volume_remainder_pocketedBlock] at hiff hmeasure
  obtain ⟨r, s', hbuild⟩ := hiff.2 ((ENNReal.ofReal_lt_ofReal_iff (by norm_num)).2 (by norm_num [empty]))
  obtain ⟨mass, hmass, hnonneg, heq⟩ := hmeasure r s' hbuild
  refine ⟨text, r, s', mass, hbuild, hmass, ?_⟩
  exact ((ENNReal.ofReal_eq_ofReal_iff (by norm_num) hnonneg).1 heq).symm

end Store

end SolidDrawing
