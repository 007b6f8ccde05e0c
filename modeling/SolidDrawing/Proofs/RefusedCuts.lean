import SolidDrawing.Proofs.BoxVolumes
import SolidDrawing.Proofs.CallPoints

/-!
# Cuts that are refused

A cut is refused when it leaves too little, as measured along the rays through the middles of the cells of a grid
(`Store.refuses_iff`). Between boxes that is the volume that is left. A cut with a tool that covers the target is always
refused (`Store.subtract_of_covers`). A round wall can leave material that no ray meets, on every grid: between the arc
of a disc and a chord near it there are two caps, and a cell that reaches into a cap has its middle outside of the disc
(`Solid.volume_caps`). Such a cut is refused although much is left (`Store.refuses_caps`).
-/

namespace SolidDrawing

open MeasureTheory

/-! ### What a cut leaves -/

private theorem volume_Ioc_prod (x x' y z : ℝ) : volume (Set.Ioc x x' ×ˢ Set.Icc 0 y ×ˢ Set.Icc 0 z) =
    ENNReal.ofReal (x' - x) * (ENNReal.ofReal y * ENNReal.ofReal z) := by
  simp only [Measure.volume_eq_prod, Measure.prod_prod, Real.volume_Ioc, Real.volume_Icc, sub_zero]

namespace Store

/-- The points of the target that are left by a cut with the tool. -/
def remains (s : Store ℝ) (target tool : SolidRef) : Set (ℝ × ℝ × ℝ) :=
  {p | s.contains target ⟨p.1, p.2.1, p.2.2⟩ = .ok true ∧ s.contains tool ⟨p.1, p.2.1, p.2.2⟩ = .ok false}

/-- The cut fails for the material that it leaves. -/
def Refuses [DecimalText ℝ] (s : Store ℝ) (target tool : SolidRef) : Prop :=
  ∃ reason s', ((kernel : Kernel ℝ (StateM (Store ℝ))).subtract target tool).run.run s =
    (.error (.booleanFailed reason), s')

section

variable {s : Store ℝ} {target tool : SolidRef} {a b : Solid ℝ}

theorem remains_eq_region (ha : s.find target = .ok a) (hb : s.find tool = .ok b) :
    s.remains target tool = (Solid.difference a b).region := by
  ext p
  simp [remains, Solid.mem_region, contains_of_find ha, contains_of_find hb]

variable [DecimalText ℝ]

/-- What a cut does to the store. -/
theorem run_subtract (ha : s.find target = .ok a) (hb : s.find tool = .ok b) :
    ((kernel : Kernel ℝ (StateM (Store ℝ))).subtract target tool).run.run s =
      if (Solid.difference a b).volume s.config.samples ≤ s.config.emptyVolume then
        (.error (.booleanFailed "Cut leaves no material in the target solid"), s)
      else (.ok (s.insert (.difference a b)).1, (s.insert (.difference a b)).2) := by
  have hrun : ((kernel : Kernel ℝ (StateM (Store ℝ))).subtract target tool).run.run s =
      s.make (.subtract target tool) := run_kernel_make s (.subtract target tool)
  rw [hrun, make_eq, made, ha, hb]
  by_cases hv : (Solid.difference a b).volume s.config.samples ≤ s.config.emptyVolume
  · simp only [bind, Except.bind, hv, if_true]
  · simp only [bind, Except.bind, hv, if_false]

theorem refuses_iff_volume_le (ha : s.find target = .ok a) (hb : s.find tool = .ok b) :
    s.Refuses target tool ↔ (Solid.difference a b).volume s.config.samples ≤ s.config.emptyVolume := by
  rw [Refuses, run_subtract ha hb]
  split
  case isTrue hv => exact iff_of_true ⟨_, s, rfl⟩ hv
  case isFalse hv =>
    refine iff_of_false ?_ hv
    rintro ⟨reason, s', h⟩
    cases h

/-- A cut is refused when the rays find too little in what it leaves, and between boxes when too little is left. -/
theorem refuses_iff (h : 0 ≤ s.config.emptyVolume) (ha : s.find target = .ok a) (hb : s.find tool = .ok b) :
    (s.Refuses target tool ↔ (((Solid.difference a b).columns s.config.samples).map fun c =>
      (((Solid.difference a b).rows s.config.samples).map fun c' =>
        volume {z | (c.middle, c'.middle, z) ∈ s.remains target tool} * ENNReal.ofReal c'.width).sum *
          ENNReal.ofReal c.width).sum ≤ ENNReal.ofReal s.config.emptyVolume) ∧
    (a.OfBoxes → b.OfBoxes → (s.Refuses target tool ↔
      volume (s.remains target tool) ≤ ENNReal.ofReal s.config.emptyVolume)) := by
  rw [remains_eq_region ha hb, refuses_iff_volume_le ha hb, ← ENNReal.ofReal_le_ofReal_iff h]
  constructor
  · rw [Solid.ofReal_volume_eq_sum]
    rfl
  · intro hboxes hboxes'
    have hdifference : (Solid.difference a b).OfBoxes := by
      intro part hpart
      rw [Solid.primitives_difference, List.mem_append] at hpart
      exact hpart.elim (hboxes part) (hboxes' part)
    rw [hdifference.volume_region_eq_volume]

/-- Two calls that succeed give handles to what they make. -/
private theorem exists_two (config : StoreConfig ℝ) {names : Nat → SolidId} (hn : Function.Injective names)
    {call call' : KernelCall ℝ} (ha : ∀ s : Store ℝ, s.made call = .ok a) (hb : ∀ s : Store ℝ, s.made call' = .ok b) :
    ∃ target s tool s',
      ((kernel : Kernel ℝ (StateM (Store ℝ))).make call).run.run (empty config names) = (.ok target, s) ∧
      ((kernel : Kernel ℝ (StateM (Store ℝ))).make call').run.run s = (.ok tool, s') ∧
      s'.config = config ∧ s'.find target = .ok a ∧ s'.find tool = .ok b := by
  refine ⟨((empty config names).insert a).1, ((empty config names).insert a).2, _,
    (((empty config names).insert a).2.insert b).2, ?_, ?_, rfl, ?_, find_insert_self _ b⟩
  · rw [run_kernel_make, make_eq, ha]
  · rw [run_kernel_make, make_eq, hb]
  · exact ((holds_insert_self _ a).insert hn b).find_eq

end

/-- A cut that leaves a plate much thinner than a cell. -/
theorem refuses_iff_plate : ∃ _ : DecimalText ℝ, ∃ target s tool s',
    ((kernel : Kernel ℝ (StateM (Store ℝ))).make (.createBox ⟨1, 1, 1⟩ ⟨false, false⟩)).run.run
        (empty ⟨256, 1 / 10 ^ 9⟩ unaryNames) = (.ok target, s) ∧
      ((kernel : Kernel ℝ (StateM (Store ℝ))).make (.createBox ⟨1 - 1 / 10 ^ 6, 1, 1⟩ ⟨false, false⟩)).run.run s =
        (.ok tool, s') ∧
      ENNReal.ofReal (1 / 10 ^ 9) < volume (s'.remains target tool) ∧ ¬ s'.Refuses target tool := by
  let text : DecimalText ℝ := ⟨fun _ => ""⟩
  have hmade (w : ℝ) (hw : 0 < w) (s : Store ℝ) : s.made (.createBox ⟨w, 1, 1⟩ ⟨false, false⟩) =
      .ok (.cuboid ⟨⟨0, 0, 0⟩, ⟨w, 1, 1⟩⟩) := by
    refine made_createBox.2 ⟨by simpa [Vec3.isPositive_iff], ?_⟩
    simp [Box.ofCorners, Centering.minCorner, Vec3.lower, Vec3.upper, hw.le]
  have hboxes (box : Box ℝ) : (Solid.cuboid box).OfBoxes := by simp [Solid.OfBoxes]
  obtain ⟨target, s, tool, s', hrun, hrun', hconfig, ha, hb⟩ :=
    exists_two ⟨256, 1 / 10 ^ 9⟩ unaryNames_injective (hmade 1 one_pos) (hmade (1 - 1 / 10 ^ 6) (by norm_num))
  have hempty : s'.config.emptyVolume = 1 / 10 ^ 9 := by rw [hconfig]
  have hleft : ENNReal.ofReal (1 / 10 ^ 9) < volume (s'.remains target tool) := by
    have hplate : Set.Ioc (1 - 1 / 10 ^ 6) 1 ×ˢ Set.Icc 0 1 ×ˢ Set.Icc 0 1 ⊆ s'.remains target tool := by
      rintro ⟨x, y, z⟩ ⟨⟨hx, hx1⟩, ⟨hy, hy1⟩, hz, hz1⟩
      rw [remains_eq_region ha hb, Solid.mem_region]
      simp only [Solid.contains_difference, Solid.contains_cuboid, Bool.and_eq_true, Bool.not_eq_true',
        ← Bool.not_eq_true, Box.contains_iff]
      norm_num at hx
      exact ⟨⟨⟨by linarith, hx1⟩, ⟨hy, hy1⟩, hz, hz1⟩, fun h => absurd h.1.2 (not_le.2 (by norm_num; exact hx))⟩
    refine lt_of_lt_of_le ?_ (measure_mono hplate)
    rw [volume_Ioc_prod, ENNReal.ofReal_one, one_mul, mul_one, ENNReal.ofReal_lt_ofReal_iff (by norm_num)]
    norm_num
  refine ⟨text, target, s, tool, s', hrun, hrun', hleft, fun hrefuses => ?_⟩
  obtain ⟨-, hiff⟩ := refuses_iff (by rw [hempty]; positivity) ha hb
  exact absurd ((hiff (hboxes _) (hboxes _)).1 hrefuses) (by rwa [hempty, not_le])

/-- A tool that covers the target leaves nothing for the rays to find: the cut fails, and nothing is stored. -/
theorem subtract_of_covers [DecimalText ℝ] {s : Store ℝ} (h : 0 ≤ s.config.emptyVolume) {target tool : SolidRef}
    {a b : Solid ℝ} (ha : s.find target = .ok a) (hb : s.find tool = .ok b)
    (hcovers : ∀ p, s.contains target p = .ok true → s.contains tool p = .ok true) :
    ∃ reason, ((kernel : Kernel ℝ (StateM (Store ℝ))).subtract target tool).run.run s =
      (.error (.booleanFailed reason), s) := by
  have hempty (p : Vec3 ℝ) : (Solid.difference a b).contains p = false := by
    have hp := hcovers p
    rw [contains_of_find ha, contains_of_find hb, Except.ok.injEq, Except.ok.injEq] at hp
    rw [Solid.contains_difference]
    cases hin : a.contains p with
    | true => simp [hp hin]
    | false => rfl
  have hvolume : (Solid.difference a b).volume s.config.samples = 0 :=
    Solid.volume_eq_zero fun _ _ _ _ => Solid.line_eq_empty fun z => hempty _
  exact ⟨_, (run_subtract ha hb).trans (if_pos (hvolume.trans_le h))⟩

/-- A rod along the `x` axis from one side of a block to the other, with rays that touch it from the side. -/
theorem subtract_of_covers_rod : ∃ _ : DecimalText ℝ, ∃ target s tool s' reason,
    ((kernel : Kernel ℝ (StateM (Store ℝ))).make (.extrude ⟨.yz, 0, [⟨⟨0, 0⟩, 1⟩]⟩ 2 .symmetric)).run.run
        (empty ⟨256, 0⟩ unaryNames) = (.ok target, s) ∧
      ((kernel : Kernel ℝ (StateM (Store ℝ))).make (.createBox ⟨2, 2, 2⟩ .all)).run.run s = (.ok tool, s') ∧
      (∀ p, s'.contains target p = .ok true → s'.contains tool p = .ok true) ∧
      ((kernel : Kernel ℝ (StateM (Store ℝ))).subtract target tool).run.run s' =
        (.error (.booleanFailed reason), s') := by
  let text : DecimalText ℝ := ⟨fun _ => ""⟩
  have hrod (s : Store ℝ) : s.made (.extrude ⟨.yz, 0, [⟨⟨0, 0⟩, 1⟩]⟩ 2 .symmetric) =
      .ok (swept ⟨.yz, 0, [⟨⟨0, 0⟩, 1⟩]⟩ 2 .symmetric) := by
    refine made_extrude.2 ⟨⟨Profile.fault?_eq_none_iff.2 ?_, by simp⟩, rfl⟩
    simp [Circle.isProper_iff]
  have hblock (s : Store ℝ) : s.made (.createBox ⟨2, 2, 2⟩ .all) = .ok (.cuboid ⟨⟨-1, -1, -1⟩, ⟨1, 1, 1⟩⟩) := by
    refine made_createBox.2 ⟨by simp [Vec3.isPositive_iff], ?_⟩
    norm_num [Box.ofCorners, Centering.minCorner, Centering.all, Vec3.lower, Vec3.upper, Vec3.scale]
  obtain ⟨target, s, tool, s', hrun, hrun', hconfig, ha, hb⟩ :=
    exists_two ⟨256, 0⟩ unaryNames_injective hrod hblock
  have hcovers : ∀ p, s'.contains target p = .ok true → s'.contains tool p = .ok true := by
    intro p
    rw [contains_of_find ha, contains_of_find hb, Except.ok.injEq, Except.ok.injEq, contains_swept_iff,
      Solid.contains_cuboid, Box.contains_iff]
    norm_num [Direction.span, Plane.toLocal]
    intro hlo hhi hradius
    have hy : |p.y| ≤ 1 := (sq_le_one_iff_abs_le_one p.y).1 (by linarith [sq_nonneg p.z])
    have hz : |p.z| ≤ 1 := (sq_le_one_iff_abs_le_one p.z).1 (by linarith [sq_nonneg p.y])
    exact ⟨⟨hlo, hhi⟩, abs_le.1 hy, abs_le.1 hz⟩
  obtain ⟨reason, hcut⟩ := subtract_of_covers (s := s') (by rw [hconfig]) ha hb hcovers
  exact ⟨text, target, s, tool, s', reason, hrun, hrun', hcovers, hcut⟩

end Store

/-! ### Caps that no ray meets -/

/-- On a grid that is centered at a breakpoint, and has no other breakpoint inside, the middles keep their distance from
the center. -/
theorem Cell.le_abs_middle {breaks : List ℝ} {r : ℝ} {samples : Nat} (hr : 0 < r) (hzero : 0 ∈ breaks)
    (hbreaks : ∀ b ∈ breaks, -r < b → b < r → b = 0) {c : Cell ℝ} (hc : c ∈ between (edges breaks (-r) r samples)) :
    r / (2 * (max samples 1 : ℕ)) ≤ |c.middle| := by
  have hn : (0 : ℝ) < (max samples 1 : ℕ) := by positivity
  have hwidth := width_pos_of_mem_between (edges_strictSorted ..) hc
  obtain ⟨a, ha, b, hb, rfl, hedges⟩ := exists_eq_of_mem_between (edges_sorted ..) hc
  -- the edges other than the center are those of the uniform grid
  have hedge : ∀ e ∈ edges breaks (-r) r samples, e ≠ 0 → r / (max samples 1 : ℕ) ≤ |e| := by
    intro e he hne
    rcases mem_edges.1 he with huniform | ⟨hb, hlo, hhi⟩
    · obtain ⟨i, -, rfl⟩ := mem_uniformEdges.1 huniform
      have hmultiple : -r + (r - -r) * i / (max samples 1 : ℕ) =
          r / (max samples 1 : ℕ) * ((2 * i - (max samples 1 : ℕ) : ℤ) : ℝ) := by
        field_simp
        push_cast
        ring
      rw [hmultiple] at hne ⊢
      have hne' : (2 * i - (max samples 1 : ℕ) : ℤ) ≠ 0 := fun hk => hne (by rw [hk, Int.cast_zero, mul_zero])
      have hone : (1 : ℝ) ≤ |((2 * i - (max samples 1 : ℕ) : ℤ) : ℝ)| := by
        rw [← Int.cast_abs]
        exact_mod_cast Int.one_le_abs hne'
      rw [abs_mul, abs_of_pos (div_pos hr hn)]
      exact le_mul_of_one_le_right (div_pos hr hn).le hone
    · exact absurd (hbreaks e hb hlo hhi) hne
  have hhalf : r / (2 * (max samples 1 : ℕ)) = r / (max samples 1 : ℕ) / 2 := by ring
  have hab : a < b := sub_pos.1 hwidth
  have hpos : 0 < r / (max samples 1 : ℕ) := div_pos hr hn
  rw [hhalf, le_abs]
  rcases hedges 0 (mem_edges.2 (.inr ⟨hzero, neg_neg_of_pos hr, hr⟩)) with h | h
  · have hb := hedge b hb (h.trans_lt hab).ne'
    rw [abs_of_nonneg (h.trans hab.le)] at hb
    left
    linarith
  · have ha := hedge a ha (hab.trans_le h).ne
    rw [abs_of_nonpos (hab.le.trans h)] at ha
    right
    linarith

namespace Solid

/-- A disc of height `h` without the part of it between two chords: two caps are left. -/
noncomputable def caps (r w h : ℝ) : Solid ℝ :=
  difference (Store.swept ⟨.xy, 0, [⟨⟨0, 0⟩, r⟩]⟩ h .positive) (cuboid ⟨⟨-w, -r, 0⟩, ⟨w, r, h⟩⟩)

variable {r w h : ℝ}

theorem caps_eq : caps r w h =
    difference (cylinder .xy ⟨0, 0, h / 2⟩ r (h / 2)) (cuboid ⟨⟨-w, -r, 0⟩, ⟨w, r, h⟩⟩) := by
  simp [caps, Store.swept, Direction.span, Plane.toWorld]

theorem contains_caps {p : Vec3 ℝ} : (caps r w h).contains p = true ↔
    (|p.z - h / 2| ≤ h / 2 ∧ p.x ^ 2 + p.y ^ 2 ≤ r ^ 2) ∧ ¬ (|p.x| ≤ w ∧ |p.y| ≤ r ∧ 0 ≤ p.z ∧ p.z ≤ h) := by
  simp only [caps_eq, contains_difference, contains_cylinder, contains_cuboid, Bool.and_eq_true, Bool.not_eq_true',
    ← Bool.not_eq_true, cylinderContains_iff, Box.contains_iff, abs_le, Plane.normSq_toLocal_sub, Plane.offsetOf_sub]
  simp [Plane.toLocal, sq, and_assoc]

private theorem bounds_caps (hr : 0 < r) : (caps r w h).bounds.min.y = -r ∧ (caps r w h).bounds.max.y = r := by
  simp [caps_eq, cylinderBounds, Box.ofCorners, Vec3.lower, Vec3.upper, Vec3.scale, Plane.normal, hr.le]

private theorem mem_breaksY_caps {b : ℝ} : b ∈ (caps r w h).breaksY ↔ b = -r ∨ b = 0 ∨ b = r := by
  simp [caps_eq, breaksY]
  tauto

/-- No line in the middle of a row meets a cap that is flat enough, wherever it runs in the row. -/
private theorem contains_caps_middle (hr : 0 < r) (hw : 0 ≤ w) {samples : Nat}
    (hflat : r ^ 2 - w ^ 2 < (r / (2 * (max samples 1 : ℕ))) ^ 2) {c : Cell ℝ} (hc : c ∈ (caps r w h).rows samples)
    (x z : ℝ) : (caps r w h).contains ⟨x, c.middle, z⟩ = false := by
  obtain ⟨hmin, hmax⟩ := bounds_caps (w := w) (h := h) hr
  rw [rows, hmin, hmax] at hc
  have hmiddle : r / (2 * (max samples 1 : ℕ)) ≤ |c.middle| := by
    refine Cell.le_abs_middle hr (mem_breaksY_caps.2 (.inr (.inl rfl))) (fun b hb hlo hhi => ?_) hc
    rcases mem_breaksY_caps.1 hb with rfl | rfl | rfl
    · exact absurd hlo (lt_irrefl _)
    · rfl
    · exact absurd hhi (lt_irrefl _)
  rw [← Bool.not_eq_true, contains_caps]
  rintro ⟨⟨hz, hdisc⟩, hout⟩
  have hsq : (r / (2 * (max samples 1 : ℕ))) ^ 2 ≤ c.middle ^ 2 := by
    rw [← sq_abs c.middle]
    exact pow_le_pow_left₀ (by positivity) hmiddle 2
  -- within the disc, the row leaves no room beyond the chords
  obtain ⟨hlo, hhi⟩ := abs_le.1 hz
  refine hout ⟨abs_le_of_sq_le_sq (by linarith) hw, abs_le_of_sq_le_sq ?_ hr.le, by linarith, by linarith⟩
  have := sq_nonneg x
  linarith

theorem volume_caps (hr : 0 < r) (hw : 0 ≤ w) {samples : Nat}
    (hflat : r ^ 2 - w ^ 2 < (r / (2 * (max samples 1 : ℕ))) ^ 2) : (caps r w h).volume samples = 0 :=
  volume_eq_zero fun _ _ _ hc => line_eq_empty fun z => contains_caps_middle hr hw hflat hc _ z

/-- A box fits into a cap, from the chord at `w` to where the disc is `2 * v` wide. -/
theorem le_volume_region_caps {m v : ℝ} (hw : 0 ≤ w) (hm : m ^ 2 + v ^ 2 ≤ r ^ 2) :
    ENNReal.ofReal (m - w) * (ENNReal.ofReal v * ENNReal.ofReal h) ≤ MeasureTheory.volume (caps r w h).region := by
  have hsubset : Set.Ioc w m ×ˢ Set.Icc 0 v ×ˢ Set.Icc 0 h ⊆ (caps r w h).region := by
    rintro ⟨x, y, z⟩ ⟨⟨hwx, hxm⟩, ⟨hy, hyv⟩, hz, hzh⟩
    rw [mem_region, contains_caps]
    refine ⟨⟨abs_le.2 ⟨by linarith, by linarith⟩, ?_⟩, fun hout => ?_⟩
    · have hx : x ^ 2 ≤ m ^ 2 := pow_le_pow_left₀ (hw.trans hwx.le) hxm 2
      have hy : y ^ 2 ≤ v ^ 2 := pow_le_pow_left₀ hy hyv 2
      linarith
    · exact absurd ((le_abs_self x).trans hout.1) (not_le.2 hwx)
  refine le_trans (le_of_eq ?_) (measure_mono hsubset)
  exact (volume_Ioc_prod ..).symm

end Solid

namespace Store

section

variable [DecimalText ℝ] {r w h : ℝ}

/-- Makes a disc of radius `r` and height `h`. -/
noncomputable def discCall (r h : ℝ) : KernelCall ℝ := .extrude ⟨.xy, 0, [⟨⟨0, 0⟩, r⟩]⟩ h .positive

/-- Makes a box that is as deep and as high as the disc, and reaches to `w` on both sides of its center. -/
noncomputable def slabCall (r w h : ℝ) : KernelCall ℝ := .createBox ⟨w + w, r + r, h⟩ ⟨true, false⟩

private theorem made_discCall (s : Store ℝ) (hr : 0 < r) (hh : 0 < h) :
    s.made (discCall r h) = .ok (swept ⟨.xy, 0, [⟨⟨0, 0⟩, r⟩]⟩ h .positive) := by
  refine made_extrude.2 ⟨⟨Profile.fault?_eq_none_iff.2 ?_, by simpa⟩, rfl⟩
  simpa [Circle.isProper_iff]

private theorem made_slabCall (s : Store ℝ) (hr : 0 < r) (hw : 0 < w) (hh : 0 < h) :
    s.made (slabCall r w h) = .ok (.cuboid ⟨⟨-w, -r, 0⟩, ⟨w, r, h⟩⟩) := by
  refine made_createBox.2 ⟨by simpa [Vec3.isPositive_iff] using ⟨hw, hr, hh⟩, ?_⟩
  have hhalf (a : ℝ) : (a + a) * 2⁻¹ = a := by ring
  have hle (a : ℝ) (ha : 0 < a) : -a ≤ a := by linarith
  simp [Box.ofCorners, Centering.minCorner, Vec3.lower, Vec3.upper, Vec3.scale, hhalf, hle w hw, hle r hr, hh.le]

/-- A cut that leaves two caps which are flat enough is refused, however much is left. -/
theorem refuses_caps (config : StoreConfig ℝ) {names : Nat → SolidId} (hn : Function.Injective names)
    (hempty : 0 ≤ config.emptyVolume) (hr : 0 < r) (hw : 0 < w) (hh : 0 < h)
    (hflat : r ^ 2 - w ^ 2 < (r / (2 * (max config.samples 1 : ℕ))) ^ 2) {m v : ℝ} (hm : m ^ 2 + v ^ 2 ≤ r ^ 2) :
    ∃ target s tool s',
      ((kernel : Kernel ℝ (StateM (Store ℝ))).make (discCall r h)).run.run (empty config names) = (.ok target, s) ∧
      ((kernel : Kernel ℝ (StateM (Store ℝ))).make (slabCall r w h)).run.run s = (.ok tool, s') ∧
      s'.Refuses target tool ∧
      ENNReal.ofReal (m - w) * (ENNReal.ofReal v * ENNReal.ofReal h) ≤ volume (s'.remains target tool) := by
  obtain ⟨target, s, tool, s', hdisc, hslab, rfl, ha, hb⟩ := exists_two config hn
    (fun s => made_discCall s hr hh) (fun s => made_slabCall s hr hw hh)
  refine ⟨target, s, tool, s', hdisc, hslab, ?_, ?_⟩
  · rw [refuses_iff_volume_le ha hb]
    exact (Solid.volume_caps hr hw.le hflat).trans_le hempty
  · rw [remains_eq_region ha hb]
    exact Solid.le_volume_region_caps hw.le hm

/-- Whatever the number of samples, and whatever volume counts as empty, there is a cut that is refused although it
leaves more. -/
theorem exists_refused_cut (config : StoreConfig ℝ) (hempty : 0 ≤ config.emptyVolume) {names : Nat → SolidId}
    (hn : Function.Injective names) :
    ∃ (target tool : KernelCall ℝ) (r : SolidRef) (s : Store ℝ) (r' : SolidRef) (s' : Store ℝ),
      ((kernel : Kernel ℝ (StateM (Store ℝ))).make target).run.run (empty config names) = (.ok r, s) ∧
      ((kernel : Kernel ℝ (StateM (Store ℝ))).make tool).run.run s = (.ok r', s') ∧
      s'.Refuses r r' ∧ ENNReal.ofReal config.emptyVolume < volume (s'.remains r r') := by
  obtain ⟨n, hn1, hnmax⟩ : ∃ n : ℝ, 1 ≤ n ∧ ((max config.samples 1 : ℕ) : ℝ) = n :=
    ⟨_, by exact_mod_cast le_max_right _ _, rfl⟩
  -- the disc has radius `1`, and the chords are at a distance of `d` from its ends
  obtain ⟨d, hd, hd1, hdn⟩ : ∃ d : ℝ, 0 < d ∧ d ≤ 1 / 8 ∧ 2 * d = (1 / (2 * n)) ^ 2 := by
    refine ⟨1 / (8 * n ^ 2), by positivity, ?_, by field_simp; norm_num⟩
    exact one_div_le_one_div_of_le (by norm_num) (by nlinarith)
  have hflat : (1 : ℝ) ^ 2 - (1 - d) ^ 2 < (1 / (2 * (max config.samples 1 : ℕ))) ^ 2 := by
    rw [hnmax, ← hdn]
    have := pow_pos hd 2
    linarith
  have hm : (1 - d / 2) ^ 2 + d ^ 2 ≤ 1 ^ 2 := by nlinarith
  obtain ⟨r, s, r', s', hdisc, hslab, hrefuses, hvolume⟩ := refuses_caps config hn hempty one_pos (by linarith)
    (show 0 < (config.emptyVolume + 1) * 2 / d ^ 2 by positivity) hflat hm
  refine ⟨_, _, r, s, r', s', hdisc, hslab, hrefuses, lt_of_lt_of_le ?_ hvolume⟩
  have hleft : (1 - d / 2 - (1 - d)) * (d * ((config.emptyVolume + 1) * 2 / d ^ 2)) = config.emptyVolume + 1 := by
    field_simp
    ring
  rw [← ENNReal.ofReal_mul hd.le, ← ENNReal.ofReal_mul (by linarith), hleft]
  exact (ENNReal.ofReal_lt_ofReal_iff (by linarith)).2 (by linarith)

end

/-- A cut that leaves two caps of a height of `1/512`, which are larger than a unit cube. -/
theorem refuses_caps_disc : ∃ _ : DecimalText ℝ, ∃ target s tool s',
    ((kernel : Kernel ℝ (StateM (Store ℝ))).make (discCall 1024 1024)).run.run (empty ⟨256, 1 / 10 ^ 9⟩ unaryNames) =
        (.ok target, s) ∧
      ((kernel : Kernel ℝ (StateM (Store ℝ))).make (slabCall 1024 (1024 - 1 / 512) 1024)).run.run s = (.ok tool, s') ∧
      s'.Refuses target tool ∧ ENNReal.ofReal (1 / 10 ^ 9) < volume (s'.remains target tool) := by
  let text : DecimalText ℝ := ⟨fun _ => ""⟩
  have hflat : (1024 : ℝ) ^ 2 - (1024 - 1 / 512) ^ 2 < (1024 / (2 * (max 256 1 : ℕ))) ^ 2 := by norm_num
  have hm : (1024 - 1 / 1024) ^ 2 + 1 ^ 2 ≤ (1024 : ℝ) ^ 2 := by norm_num
  obtain ⟨target, s, tool, s', hdisc, hslab, hrefuses, hvolume⟩ :=
    refuses_caps ⟨256, 1 / 10 ^ 9⟩ unaryNames_injective (by norm_num) (by norm_num) (by norm_num)
      (show (0 : ℝ) < 1024 by norm_num) hflat hm
  refine ⟨text, target, s, tool, s', hdisc, hslab, hrefuses, lt_of_lt_of_le ?_ hvolume⟩
  rw [← ENNReal.ofReal_mul zero_le_one, ← ENNReal.ofReal_mul (by norm_num), ENNReal.ofReal_lt_ofReal_iff (by norm_num)]
  norm_num

end Store

end SolidDrawing
