import SolidDrawing.Proofs.BoxVolumes
import SolidDrawing.Proofs.Material
import SolidDrawing.Proofs.StoreHistories

/-!
# The boxes around stored solids

Whatever calls are made to a kernel, the solids in its store are well formed: boxes have their corners in order,
cylinders have a size, and no union is empty (`Store.wellFormed_history`). The box around such a solid has its corners
in order too, and each of its faces touches the solid unless something was taken away (`Solid.Joined`). No vertical line
runs through more of a solid than its box is high, so that its volume is found to be at most that of the box.
-/

namespace SolidDrawing

/-! ### Boxes -/

theorem Axis.offsetOf_add (axis : Axis) (p q : Vec3 ℝ) :
    axis.plane.offsetOf (p + q) = axis.plane.offsetOf p + axis.plane.offsetOf q := by
  cases axis <;> simp [Axis.plane]

theorem Axis.offsetOf_unit_scale (axis : Axis) (t : ℝ) : axis.plane.offsetOf (axis.unit.scale t) = t := by
  cases axis <;> simp [Axis.plane, Axis.unit, Vec3.scale]

theorem Axis.offsetOf_min_union (axis : Axis) (a b : Box ℝ) : axis.plane.offsetOf (a.union b).min =
    min (axis.plane.offsetOf a.min) (axis.plane.offsetOf b.min) := by
  cases axis <;> simp [Axis.plane, Box.union, Vec3.lower]

theorem Axis.offsetOf_max_union (axis : Axis) (a b : Box ℝ) : axis.plane.offsetOf (a.union b).max =
    max (axis.plane.offsetOf a.max) (axis.plane.offsetOf b.max) := by
  cases axis <;> simp [Axis.plane, Box.union, Vec3.upper]

namespace Box

/-- The corners are in order in each direction. -/
structure Ordered (b : Box ℝ) : Prop where
  x : b.min.x ≤ b.max.x
  y : b.min.y ≤ b.max.y
  z : b.min.z ≤ b.max.z

/-- Each of the six faces is as far out as some point with `P`. -/
def TouchedBy (P : Vec3 ℝ → Prop) (b : Box ℝ) : Prop :=
  ∀ axis : Axis, (∃ p, P p ∧ axis.plane.offsetOf p = axis.plane.offsetOf b.min) ∧
    ∃ p, P p ∧ axis.plane.offsetOf p = axis.plane.offsetOf b.max

theorem ordered_ofCorners (a b : Vec3 ℝ) : (ofCorners a b).Ordered := by
  constructor <;> simp [ofCorners, Vec3.lower, Vec3.upper]

theorem Ordered.translated {b : Box ℝ} (h : b.Ordered) (offset : Vec3 ℝ) : (b.translated offset).Ordered := by
  constructor <;> simp [Box.translated, h.x, h.y, h.z]

theorem Ordered.union {a : Box ℝ} (h : a.Ordered) (b : Box ℝ) : (a.union b).Ordered where
  x := (min_le_left ..).trans (h.x.trans (le_max_left ..))
  y := (min_le_left ..).trans (h.y.trans (le_max_left ..))
  z := (min_le_left ..).trans (h.z.trans (le_max_left ..))

theorem Ordered.size_nonneg {b : Box ℝ} (h : b.Ordered) : 0 ≤ b.size.x ∧ 0 ≤ b.size.y ∧ 0 ≤ b.size.z :=
  ⟨sub_nonneg.2 h.x, sub_nonneg.2 h.y, sub_nonneg.2 h.z⟩

theorem Ordered.contains_corners {b : Box ℝ} (h : b.Ordered) : b.contains b.min = true ∧ b.contains b.max = true := by
  simp [contains_iff, h.x, h.y, h.z]

variable {P Q : Vec3 ℝ → Prop}

theorem TouchedBy.mono {b : Box ℝ} (h : b.TouchedBy P) (hsub : ∀ p, P p → Q p) : b.TouchedBy Q := fun axis =>
  ⟨(h axis).1.imp fun p hp => ⟨hsub p hp.1, hp.2⟩, (h axis).2.imp fun p hp => ⟨hsub p hp.1, hp.2⟩⟩

/-- Each face of the smallest box around two boxes is a face of one of them. -/
theorem TouchedBy.union {a b : Box ℝ} (ha : a.TouchedBy P) (hb : b.TouchedBy P) : (a.union b).TouchedBy P := by
  intro axis
  rw [axis.offsetOf_min_union, axis.offsetOf_max_union]
  constructor
  · rcases min_choice (axis.plane.offsetOf a.min) (axis.plane.offsetOf b.min) with h | h
    · rw [h]
      exact (ha axis).1
    · rw [h]
      exact (hb axis).1
  · rcases max_choice (axis.plane.offsetOf a.max) (axis.plane.offsetOf b.max) with h | h
    · rw [h]
      exact (ha axis).2
    · rw [h]
      exact (hb axis).2

/-- What passes to the smallest box around two boxes passes to the box around several solids. -/
theorem foldl_union {R : Box ℝ → Prop} (hunion : ∀ a b, R a → R b → R (a.union b)) {parts : List (Solid ℝ)}
    {box : Box ℝ} (hbox : R box) (hparts : ∀ part ∈ parts, R part.bounds) :
    R (parts.foldl (fun box other => box.union other.bounds) box) := by
  induction parts generalizing box with
  | nil => exact hbox
  | cons part rest ih =>
    obtain ⟨hpart, hrest⟩ := List.forall_mem_cons.1 hparts
    exact ih (hunion _ _ hbox hpart) hrest

end Box

namespace Solid

/-! ### Well-formed solids -/

/-- Boxes have their corners in order, cylinders have a size, and something is joined. -/
inductive WellFormed : Solid ℝ → Prop
  | cuboid {box : Box ℝ} (ordered : box.Ordered) : WellFormed (cuboid box)
  | cylinder {plane : Plane} {center : Vec3 ℝ} {radius halfLength : ℝ} (round : 0 < radius) (long : 0 < halfLength) :
    WellFormed (cylinder plane center radius halfLength)
  | union {parts : List (Solid ℝ)} (nonempty : parts ≠ []) (each : ∀ part ∈ parts, WellFormed part) :
    WellFormed (union parts)
  | difference {target tool : Solid ℝ} (ht : WellFormed target) (hu : WellFormed tool) :
    WellFormed (difference target tool)

/-- Nothing is taken away anywhere in the solid. -/
inductive Joined : Solid ℝ → Prop
  | cuboid (box : Box ℝ) : Joined (cuboid box)
  | cylinder (plane : Plane) (center : Vec3 ℝ) (radius halfLength : ℝ) :
    Joined (cylinder plane center radius halfLength)
  | union {parts : List (Solid ℝ)} (each : ∀ part ∈ parts, Joined part) : Joined (union parts)

theorem WellFormed.translated {s : Solid ℝ} (h : s.WellFormed) (offset : Vec3 ℝ) :
    (s.translated offset).WellFormed := by
  induction h with
  | cuboid ordered =>
    rw [translated_cuboid]
    exact .cuboid (ordered.translated offset)
  | cylinder round long =>
    rw [translated_cylinder]
    exact .cylinder round long
  | union nonempty _ ih =>
    rw [translated_union]
    exact .union (by simpa using nonempty) (List.forall_mem_map.2 ih)
  | difference _ _ iht ihu =>
    rw [translated_difference]
    exact .difference iht ihu

/-! ### Faces -/

theorem bounds_ordered {s : Solid ℝ} (h : s.WellFormed) : s.bounds.Ordered := by
  induction h with
  | cuboid ordered => simpa using ordered
  | cylinder =>
    rw [bounds_cylinder]
    exact Box.ordered_ofCorners ..
  | @union parts nonempty _ ih =>
    obtain ⟨first, rest, rfl⟩ := List.exists_cons_of_ne_nil nonempty
    obtain ⟨hfirst, hrest⟩ := List.forall_mem_cons.1 ih
    rw [bounds_union_cons]
    exact Box.foldl_union (fun _ b ha _ => ha.union b) hfirst hrest
  | difference _ _ iht _ => simpa using iht

/-- How far a cylinder reaches from its center along an axis. -/
def reach (plane : Plane) (radius halfLength : ℝ) (axis : Axis) : ℝ :=
  if axis.plane = plane then halfLength else radius

section

variable (plane : Plane) (center : Vec3 ℝ) {radius halfLength : ℝ}

private theorem offsetOf_cylinderBounds (hr : 0 < radius) (hl : 0 < halfLength) (axis : Axis) :
    axis.plane.offsetOf (cylinderBounds plane center radius halfLength).min =
        axis.plane.offsetOf center - reach plane radius halfLength axis ∧
      axis.plane.offsetOf (cylinderBounds plane center radius halfLength).max =
        axis.plane.offsetOf center + reach plane radius halfLength axis := by
  cases plane <;> cases axis <;>
    simp [cylinderBounds, reach, Axis.plane, Box.ofCorners, Vec3.lower, Vec3.upper, Vec3.scale, Plane.normal] <;>
    linarith

/-- From its center a cylinder reaches this far along the axis. -/
private theorem contains_cylinder_reach (hr : 0 < radius) (hl : 0 < halfLength) (axis : Axis) {t : ℝ}
    (ht : |t| ≤ reach plane radius halfLength axis) :
    (cylinder plane center radius halfLength).contains (center + axis.unit.scale t) = true := by
  have hsq : |t| ≤ radius → t * t ≤ radius * radius := fun h => by
    rw [← abs_mul_abs_self t]
    exact mul_self_le_mul_self (abs_nonneg t) h
  have hzero := mul_self_nonneg radius
  rw [contains_cylinder, cylinderContains_iff]
  -- along its axis only the length of the cylinder counts, and across it only the radius
  cases plane <;> cases axis <;>
    simp_all [reach, Axis.plane, Axis.unit, Vec3.scale, Plane.toLocal, Vec2.normSq, hl.le]

private theorem touchedBy_cylinderBounds (hr : 0 < radius) (hl : 0 < halfLength) :
    (cylinderBounds plane center radius halfLength).TouchedBy
      fun p => (cylinder plane center radius halfLength).contains p = true := by
  intro axis
  obtain ⟨hmin, hmax⟩ := offsetOf_cylinderBounds plane center hr hl axis
  have hreach : |reach plane radius halfLength axis| ≤ reach plane radius halfLength axis := by
    refine (abs_of_nonneg ?_).le
    rw [reach]
    split
    · exact hl.le
    · exact hr.le
  constructor
  · refine ⟨_, contains_cylinder_reach plane center hr hl axis ((abs_neg _).trans_le hreach), ?_⟩
    rw [hmin, axis.offsetOf_add, axis.offsetOf_unit_scale, sub_eq_add_neg]
  · refine ⟨_, contains_cylinder_reach plane center hr hl axis hreach, ?_⟩
    rw [hmax, axis.offsetOf_add, axis.offsetOf_unit_scale]

end

/-- Where nothing is taken away, all faces of the box around a solid touch it. -/
theorem bounds_touchedBy {s : Solid ℝ} (h : s.WellFormed) (hs : s.Joined) :
    s.bounds.TouchedBy fun p => s.contains p = true := by
  induction h with
  | @cuboid box ordered =>
    obtain ⟨hmin, hmax⟩ := ordered.contains_corners
    rw [bounds_cuboid]
    exact fun axis => ⟨⟨box.min, by simpa using hmin, rfl⟩, box.max, by simpa using hmax, rfl⟩
  | cylinder round long =>
    rw [bounds_cylinder]
    exact touchedBy_cylinderBounds _ _ round long
  | @union parts nonempty _ ih =>
    have hparts : ∀ part ∈ parts, part.Joined := by
      cases hs with
      | union each => exact each
    have htouched : ∀ part ∈ parts, part.bounds.TouchedBy fun p => (union parts).contains p = true := by
      intro part hpart
      refine (ih part hpart (hparts part hpart)).mono fun p hp => ?_
      rw [contains_union, List.any_eq_true]
      exact ⟨part, hpart, hp⟩
    obtain ⟨first, rest, rfl⟩ := List.exists_cons_of_ne_nil nonempty
    obtain ⟨hfirst, hrest⟩ := List.forall_mem_cons.1 htouched
    rw [bounds_union_cons]
    exact Box.foldl_union (fun _ _ => Box.TouchedBy.union) hfirst hrest
  | difference => cases hs

/-! ### Volumes -/

/-- No vertical line runs through more of a solid than the box around it is high. -/
theorem length_spansAt_le {s : Solid ℝ} (h : s.bounds.Ordered) (x y : ℝ) :
    Spans.length (s.spansAt x y) ≤ s.bounds.size.z := by
  have hsubset : s.line x y ⊆ Set.Icc s.bounds.min.z s.bounds.max.z := fun z hz =>
    (Box.contains_iff.1 (contains_bounds (mem_line.1 hz))).2.2
  have hvolume := MeasureTheory.measure_mono (μ := MeasureTheory.volume) hsubset
  rw [volume_line, Real.volume_Icc] at hvolume
  exact (ENNReal.ofReal_le_ofReal_iff h.size_nonneg.2.2).1 hvolume

theorem integrate_le {s : Solid ℝ} {xs ys : List (Cell ℝ)} {d : ℝ} (hx : ∀ c ∈ xs, 0 ≤ c.width)
    (hy : ∀ c ∈ ys, 0 ≤ c.width) (hd : ∀ x y, Spans.length (s.spansAt x y) ≤ d) :
    s.integrate xs ys ≤ (xs.map Cell.width).sum * (ys.map Cell.width).sum * d := by
  calc s.integrate xs ys
      = (xs.map fun a => (ys.map fun b =>
          Spans.length (s.spansAt a.middle b.middle) * a.width * b.width).sum).sum := integrate_eq_sum ..
    _ ≤ (xs.map fun a => (ys.map fun b => d * a.width * b.width).sum).sum := by
      refine List.sum_le_sum fun a ha => List.sum_le_sum fun b hb => ?_
      exact mul_le_mul_of_nonneg_right (mul_le_mul_of_nonneg_right (hd ..) (hx a ha)) (hy b hb)
    _ = (xs.map Cell.width).sum * (ys.map Cell.width).sum * d := by
      simp only [List.sum_map_mul_left, List.sum_map_mul_right]
      ring

theorem volume_le_size {s : Solid ℝ} (h : s.bounds.Ordered) (samples : Nat) :
    s.volume samples ≤ s.bounds.size.x * s.bounds.size.y * s.bounds.size.z := by
  obtain ⟨hx, hy, hz⟩ := h.size_nonneg
  rw [volume_eq_integrate, columns]
  split
  · simp only [integrate_eq_sum, List.map_nil, List.sum_nil]
    positivity
  · have hcells (breaks : List ℝ) (lo hi : ℝ) :
        ∀ c ∈ Cell.between (Cell.edges breaks lo hi samples), 0 ≤ c.width := fun c hc =>
      Cell.width_nonneg_of_mem_between (Cell.edges_sorted ..) hc
    have hle := integrate_le (hcells s.breaksX s.bounds.min.x s.bounds.max.x)
      (hcells s.breaksY s.bounds.min.y s.bounds.max.y) (length_spansAt_le h)
    rwa [Cell.sum_width_edges h.x, Cell.sum_width_edges h.y] at hle

end Solid

/-! ### Stored solids -/

namespace Store

theorem wellFormed_swept {profile : Profile ℝ} {distance : ℝ} (hprofile : profile.fault? = none)
    (hdistance : Scalar.isPositive distance = true) (direction : Direction) :
    (swept profile distance direction).WellFormed := by
  obtain ⟨hne, hproper⟩ := Profile.fault?_eq_none_iff.1 hprofile
  have hlong : 0 < ((direction.span distance).2 - (direction.span distance).1) / 2 := by
    have hpos := Scalar.isPositive_real.1 hdistance
    cases direction <;> simp [Direction.span] <;> linarith
  rw [swept]
  simp only
  split
  case h_1 c h =>
    exact .cylinder (Circle.isProper_iff.1 (hproper c (by simp [h]))) (by simpa using hlong)
  case h_2 =>
    refine .union (by simpa using hne) (List.forall_mem_map.2 fun c hc => ?_)
    exact .cylinder (Circle.isProper_iff.1 (hproper c hc)) (by simpa using hlong)

section

variable [DecimalText ℝ]

/-- A call makes a well-formed solid of well-formed ones. -/
theorem wellFormed_made {s : Store ℝ} (h : ∀ entry ∈ s.solids, entry.2.WellFormed) {call : KernelCall ℝ}
    {solid : Solid ℝ} (hmade : s.made call = .ok solid) : solid.WellFormed := by
  have hfind {r : SolidRef} {other : Solid ℝ} (hr : s.find r = .ok other) : other.WellFormed := by
    obtain ⟨id, hmem⟩ := mem_solids_of_find hr
    exact h _ hmem
  cases call with
  | extrude profile distance direction =>
    obtain ⟨⟨hprofile, hdistance⟩, rfl⟩ := made_extrude.1 hmade
    exact wellFormed_swept hprofile hdistance direction
  | createBox size centering =>
    obtain ⟨-, rfl⟩ := made_createBox.1 hmade
    exact .cuboid (Box.ordered_ofCorners ..)
  | subtract target tool =>
    obtain ⟨a, b, ha, hb, -, rfl⟩ := made_subtract.1 hmade
    exact .difference (hfind ha) (hfind hb)
  | translate r offset =>
    obtain ⟨a, ha, rfl⟩ := made_translate.1 hmade
    exact (hfind ha).translated offset

theorem wellFormed_history (config : StoreConfig ℝ) (names : Nat → SolidId) (calls : List (StoreCall ℝ)) :
    ∀ entry ∈ (history step (empty config names) calls).2.solids, entry.2.WellFormed :=
  solids_history (fun _ h _ _ => wellFormed_made h) config names calls

/-- Whatever calls were made, the box around a solid in the store holds all its points and has its corners in order. All
its faces touch the solid if nothing was taken away, and the solid is found to be no larger than it. -/
theorem bounds_of_history {config : StoreConfig ℝ} {names : Nat → SolidId} {calls : List (StoreCall ℝ)} {s : Store ℝ}
    (hs : (history step (empty config names) calls).2 = s) {r : SolidRef} {solid : Solid ℝ}
    (hr : s.find r = .ok solid) :
    ∃ box, s.bounds r = .ok box ∧ (∀ p, s.contains r p = .ok true → box.contains p = true) ∧ box.Ordered ∧
      (solid.Joined → box.TouchedBy fun p => s.contains r p = .ok true) ∧
      s.measure r = .ok ⟨solid.volume config.samples, box⟩ ∧
      ∀ samples, 0 ≤ solid.volume samples ∧ solid.volume samples ≤ box.size.x * box.size.y * box.size.z := by
  have hconfig : s.config = config := hs ▸ config_history _ calls
  have hwell : solid.WellFormed := by
    obtain ⟨id, hmem⟩ := mem_solids_of_find hr
    exact wellFormed_history config names calls _ (hs ▸ hmem)
  have hordered := Solid.bounds_ordered hwell
  have hinside (p : Vec3 ℝ) : s.contains r p = .ok true ↔ solid.contains p = true := by
    rw [contains_of_find hr, Except.ok.injEq]
  refine ⟨solid.bounds, bounds_of_find hr, fun p hp => ?_, hordered, fun hjoined => ?_, ?_, fun samples => ?_⟩
  · exact Solid.contains_bounds ((hinside p).1 hp)
  · exact (Solid.bounds_touchedBy hwell hjoined).mono fun p hp => (hinside p).2 hp
  · rw [measure_of_find hr, hconfig]
  · exact ⟨Solid.volume_nonneg .., Solid.volume_le_size hordered samples⟩

end

/-- Two rods along the `y` axis, which are moved. -/
def twoRods : List (StoreCall ℝ) :=
  [.make (.extrude ⟨.xz, 0, [⟨⟨0, 0⟩, 1⟩, ⟨⟨18, 0⟩, 1⟩]⟩ 14 .symmetric),
    .make (.translate ⟨unaryNames 0, kernelName⟩ ⟨1, 14, 18⟩)]

theorem bounds_of_history_twoRods : ∃ _ : DecimalText ℝ, ∃ s r solid,
    (history step (empty ⟨16, 0⟩ unaryNames) twoRods).2 = s ∧ s.find r = .ok solid ∧ solid.Joined ∧
      s.bounds r = .ok ⟨⟨0, 7, 17⟩, ⟨20, 21, 19⟩⟩ ∧
      (Box.TouchedBy (fun p => s.contains r p = .ok true) ⟨⟨0, 7, 17⟩, ⟨20, 21, 19⟩⟩) ∧ solid.volume 7 ≤ 560 := by
  let text : DecimalText ℝ := ⟨fun _ => ""⟩
  let rods : Solid ℝ := swept ⟨.xz, 0, [⟨⟨0, 0⟩, 1⟩, ⟨⟨18, 0⟩, 1⟩]⟩ 14 .symmetric
  let s : Store ℝ := ((empty ⟨16, 0⟩ unaryNames).insert rods).2
  have hrods : (empty ⟨16, 0⟩ unaryNames : Store ℝ).made
      (.extrude ⟨.xz, 0, [⟨⟨0, 0⟩, 1⟩, ⟨⟨18, 0⟩, 1⟩]⟩ 14 .symmetric) = .ok rods := by
    refine made_extrude.2 ⟨⟨Profile.fault?_eq_none_iff.2 ?_, by simp⟩, rfl⟩
    simp [Circle.isProper_iff]
  have hmoved : s.made (.translate ⟨unaryNames 0, kernelName⟩ ⟨1, 14, 18⟩) = .ok (rods.translated ⟨1, 14, 18⟩) :=
    made_translate.2 ⟨rods, find_insert_self _ rods, rfl⟩
  have hs : (history step (empty ⟨16, 0⟩ unaryNames) twoRods).2 = (s.insert (rods.translated ⟨1, 14, 18⟩)).2 := by
    rw [twoRods, history_cons, history_cons, history_nil, step_make_of_made hrods, step_make_of_made hmoved]
  have hunion : rods.translated ⟨1, 14, 18⟩ =
      .union [.cylinder .xz ⟨1, 14, 18⟩ 1 7, .cylinder .xz ⟨19, 14, 18⟩ 1 7] := by
    simp only [rods, swept, List.map_cons, List.map_nil, Solid.translated_union, Solid.translated_cylinder]
    norm_num [Direction.span, Plane.toWorld, Vec3.ext_iff]
  have hjoined : (rods.translated ⟨1, 14, 18⟩).Joined := by
    rw [hunion]
    exact .union (by simp [Solid.Joined.cylinder])
  have hrod (x : ℝ) : (Solid.cylinder .xz ⟨x, 14, 18⟩ 1 7).bounds = ⟨⟨x - 1, 7, 17⟩, ⟨x + 1, 21, 19⟩⟩ := by
    have hle (c : ℝ) : c - 1 ≤ c + 1 := by linarith
    simp [Solid.cylinderBounds, Box.ofCorners, Vec3.lower, Vec3.upper, Vec3.scale, Plane.normal, hle]
    norm_num
  have hbounds : (rods.translated ⟨1, 14, 18⟩).bounds = ⟨⟨0, 7, 17⟩, ⟨20, 21, 19⟩⟩ := by
    rw [hunion, Solid.bounds_union_cons, List.foldl_cons, List.foldl_nil, hrod, hrod]
    norm_num [Box.union, Vec3.lower, Vec3.upper]
  have hfind := find_insert_self s (rods.translated ⟨1, 14, 18⟩)
  obtain ⟨box, hbox, -, -, htouched, -, hvolume⟩ := bounds_of_history hs hfind
  rw [bounds_of_find hfind, Except.ok.injEq, hbounds] at hbox
  subst hbox
  have hvolume := (hvolume 7).2
  norm_num [Box.size] at hvolume
  exact ⟨text, _, _, _, hs, hfind, hjoined, (bounds_of_find hfind).trans (by rw [hbounds]), htouched hjoined, hvolume⟩

end Store

end SolidDrawing
