import SolidDrawing.Proofs.ThroughHoles
import SolidDrawing.Proofs.TightBounds

/-!
# Moved solids

With exact arithmetic a solid that is moved is told from the solid itself by nothing that a kernel reports but where it
lies. The edges and the breakpoints of the grid move with the solid (`Cell.edges_moved`, `Solid.columns_translated`),
and each vertical line runs through as much of it as before (`Solid.length_spansAt_translated`), so that the same volume
is found with every grid (`Solid.volume_translated`). A cut of moved solids is the moved cut, and fails when the cut
does (`Store.answered_moved_subtract`).
-/

namespace SolidDrawing

/-! ### Boxes -/

namespace Box

variable (a b : Box ℝ) (u v offset : Vec3 ℝ)

theorem ofCorners_add : ofCorners (u + offset) (v + offset) = (ofCorners u v).translated offset := by
  simp only [ofCorners, translated, Vec3.lower, Vec3.upper, mk.injEq, Vec3.ext_iff, Vec3.add_x, Vec3.add_y, Vec3.add_z,
    Scalar.smaller_real, Scalar.larger_real, min_add_add_right, max_add_add_right, and_self]

theorem translated_union : (a.union b).translated offset = (a.translated offset).union (b.translated offset) := by
  simp only [union, translated, Vec3.lower, Vec3.upper, mk.injEq, Vec3.ext_iff, Vec3.add_x, Vec3.add_y, Vec3.add_z,
    Scalar.smaller_real, Scalar.larger_real, min_add_add_right, max_add_add_right, and_self]

theorem size_translated : (a.translated offset).size = a.size := by
  simp [size, translated, Vec3.ext_iff]

theorem translated_translated (offset' : Vec3 ℝ) :
    (a.translated offset).translated offset' = a.translated (offset + offset') := by
  simp [translated, Vec3.ext_iff, add_assoc]

end Box

/-! ### Grids -/

namespace Cell

/-- The cell moved along the line. -/
def moved (t : ℝ) (c : Cell ℝ) : Cell ℝ := ⟨c.middle + t, c.width⟩

variable {breaks breaks' : List ℝ} {lo hi t : ℝ}

theorem mem_uniformEdges_moved {n : Nat} {e : ℝ} :
    e ∈ uniformEdges (lo + t) (hi + t) n ↔ e - t ∈ uniformEdges lo hi n := by
  rw [mem_uniformEdges, mem_uniformEdges]
  refine exists_congr fun i => and_congr_right fun _ => ?_
  have hlength : hi + t - (lo + t) = hi - lo := by ring
  rw [hlength, sub_eq_iff_eq_add, add_right_comm]

/-- Where the breakpoints and the ends of a line move, the edges of the grid do. -/
theorem edges_moved (h : ∀ b, b ∈ breaks' ↔ b - t ∈ breaks) (lo hi : ℝ) (samples : Nat) :
    edges breaks' (lo + t) (hi + t) samples = (edges breaks lo hi samples).map (· + t) := by
  have hsorted : ((edges breaks lo hi samples).map (· + t)).Pairwise (· < ·) :=
    List.pairwise_map.2 ((edges_strictSorted breaks lo hi samples).imp fun hlt => by simpa using hlt)
  -- both lists are strictly sorted, so that it is enough to compare their members
  refine List.Pairwise.eq_of_mem_iff (edges_strictSorted ..) hsorted fun e => ?_
  have hmap : e ∈ (edges breaks lo hi samples).map (· + t) ↔ e - t ∈ edges breaks lo hi samples := by
    rw [List.mem_map]
    constructor
    · rintro ⟨e', he', rfl⟩
      rwa [add_sub_cancel_right]
    · intro he
      exact ⟨e - t, he, sub_add_cancel e t⟩
  rw [hmap, mem_edges, mem_edges, mem_uniformEdges_moved, h, lt_sub_iff_add_lt, sub_lt_iff_lt_add]

theorem between_map_add (es : List ℝ) (t : ℝ) : between (es.map (· + t)) = (between es).map (moved t) := by
  induction es with
  | nil => rfl
  | cons a rest ih =>
    cases rest with
    | nil => rfl
    | cons b rest =>
      have hmiddle : (a + t + (b + t)) / 2 = (a + b) / 2 + t := by ring
      have hwidth : b + t - (a + t) = b - a := by ring
      rw [List.map_cons, List.map_cons, between_cons_cons, between_cons_cons, List.map_cons, hmiddle, hwidth]
      rw [List.map_cons] at ih
      rw [ih]
      rfl

end Cell

/-! ### Solids -/

namespace Solid

theorem translated_translated (s : Solid ℝ) (d₁ d₂ : Vec3 ℝ) :
    (s.translated d₁).translated d₂ = s.translated (d₁ + d₂) := by
  induction s with
  | cuboid box => simp [Box.translated_translated]
  | cylinder plane center radius halfLength =>
    have hcenter : center + d₁ + d₂ = center + (d₁ + d₂) := by
      ext <;> simp [add_assoc]
    simp only [translated_cylinder, hcenter]
  | union parts ih =>
    simp only [translated_union, List.map_map, union.injEq]
    exact List.map_congr_left ih
  | difference target tool iht ihu => simp only [translated_difference, iht, ihu]

theorem cylinderBounds_add (plane : Plane) (center : Vec3 ℝ) (radius halfLength : ℝ) (offset : Vec3 ℝ) :
    cylinderBounds plane (center + offset) radius halfLength =
      (cylinderBounds plane center radius halfLength).translated offset := by
  have hsub (extent : Vec3 ℝ) : center + offset - extent = center - extent + offset := by
    ext <;> simp [add_sub_right_comm]
  have hadd (extent : Vec3 ℝ) : center + offset + extent = center + extent + offset := by
    ext <;> simp [add_right_comm]
  rw [cylinderBounds, cylinderBounds, hsub, hadd, Box.ofCorners_add]

private theorem foldl_union_translated (offset : Vec3 ℝ) {parts : List (Solid ℝ)} (box : Box ℝ)
    (h : ∀ part ∈ parts, (part.translated offset).bounds = part.bounds.translated offset) :
    (parts.map (translated offset)).foldl (fun box other => box.union other.bounds) (box.translated offset) =
      (parts.foldl (fun box other => box.union other.bounds) box).translated offset := by
  induction parts generalizing box with
  | nil => rfl
  | cons part rest ih =>
    obtain ⟨hpart, hrest⟩ := List.forall_mem_cons.1 h
    rw [List.map_cons, List.foldl_cons, List.foldl_cons, hpart, ← Box.translated_union]
    exact ih _ hrest

/-- The box around a solid moves with it, as long as no union is empty. -/
theorem bounds_translated {s : Solid ℝ} (h : s.WellFormed) (offset : Vec3 ℝ) :
    (s.translated offset).bounds = s.bounds.translated offset := by
  induction h with
  | cuboid => simp
  | cylinder =>
    rw [translated_cylinder, bounds_cylinder, bounds_cylinder]
    exact cylinderBounds_add ..
  | @union parts nonempty _ ih =>
    obtain ⟨first, rest, rfl⟩ := List.exists_cons_of_ne_nil nonempty
    obtain ⟨hfirst, hrest⟩ := List.forall_mem_cons.1 ih
    rw [translated_union, List.map_cons, bounds_union_cons, bounds_union_cons, hfirst]
    exact foldl_union_translated offset _ hrest
  | difference _ _ iht _ =>
    rw [translated_difference, bounds_difference, bounds_difference]
    exact iht

/-! ### The grid of a moved solid -/

/-- Breakpoints that move with the boxes and cylinders of a solid move with the solid. -/
private theorem mem_breaks_translated {breaks : Solid ℝ → List ℝ} {t : ℝ} {offset : Vec3 ℝ}
    (hbreaks : ∀ {s : Solid ℝ} {b : ℝ}, b ∈ breaks s ↔ ∃ part ∈ s.primitives, b ∈ breaks part) {s : Solid ℝ}
    (hpart : ∀ part ∈ s.primitives, breaks (part.translated offset) = (breaks part).map (· + t)) (b : ℝ) :
    b ∈ breaks (s.translated offset) ↔ b - t ∈ breaks s := by
  rw [hbreaks, hbreaks, primitives_translated]
  constructor
  · rintro ⟨moved, hmoved, hb⟩
    obtain ⟨part, hmem, rfl⟩ := List.mem_map.1 hmoved
    rw [hpart part hmem] at hb
    obtain ⟨b', hb', rfl⟩ := List.mem_map.1 hb
    exact ⟨part, hmem, by rwa [add_sub_cancel_right]⟩
  · rintro ⟨part, hmem, hb⟩
    refine ⟨part.translated offset, List.mem_map_of_mem hmem, ?_⟩
    rw [hpart part hmem]
    exact List.mem_map.2 ⟨b - t, hb, sub_add_cancel b t⟩

section

variable (s : Solid ℝ) (offset : Vec3 ℝ)

theorem mem_breaksX_translated (b : ℝ) : b ∈ (s.translated offset).breaksX ↔ b - offset.x ∈ s.breaksX := by
  refine mem_breaks_translated mem_breaksX (fun part hpart => ?_) b
  rcases eq_of_mem_primitives hpart with ⟨box, rfl⟩ | ⟨plane, center, radius, halfLength, rfl⟩
  · simp [breaksX, Box.translated]
  · simp [breaksX, add_sub_right_comm, add_right_comm]

theorem mem_breaksY_translated (b : ℝ) : b ∈ (s.translated offset).breaksY ↔ b - offset.y ∈ s.breaksY := by
  refine mem_breaks_translated mem_breaksY (fun part hpart => ?_) b
  rcases eq_of_mem_primitives hpart with ⟨box, rfl⟩ | ⟨plane, center, radius, halfLength, rfl⟩
  · simp [breaksY, Box.translated]
  · simp [breaksY, add_sub_right_comm, add_right_comm]

end

section

variable {s : Solid ℝ} (h : s.WellFormed) (offset : Vec3 ℝ) (samples : Nat)

include h

theorem columns_translated :
    (s.translated offset).columns samples = (s.columns samples).map (Cell.moved offset.x) := by
  have hedges := Cell.edges_moved (s.mem_breaksX_translated offset) s.bounds.min.x s.bounds.max.x samples
  rw [columns, columns, bounds_translated h, Box.size_translated]
  split
  · rfl
  · rw [← Cell.between_map_add, ← hedges]
    rfl

theorem rows_translated : (s.translated offset).rows samples = (s.rows samples).map (Cell.moved offset.y) := by
  have hedges := Cell.edges_moved (s.mem_breaksY_translated offset) s.bounds.min.y s.bounds.max.y samples
  rw [rows, rows, bounds_translated h, ← Cell.between_map_add, ← hedges]
  rfl

end

/-! ### The volume of a moved solid -/

theorem line_translated (s : Solid ℝ) (offset : Vec3 ℝ) (x y : ℝ) :
    (s.translated offset).line (x + offset.x) (y + offset.y) = Set.preimage (· + -offset.z) (s.line x y) := by
  ext z
  have hpoint : (⟨x + offset.x, y + offset.y, z⟩ - offset : Vec3 ℝ) = ⟨x, y, z + -offset.z⟩ := by
    ext <;> simp [sub_eq_add_neg]
  rw [Set.mem_preimage, mem_line, mem_line, contains_translated, hpoint]

/-- A vertical line runs through as much of the moved solid as the line that was there ran through the solid. -/
theorem length_spansAt_translated (s : Solid ℝ) (offset : Vec3 ℝ) (x y : ℝ) :
    Spans.length ((s.translated offset).spansAt (x + offset.x) (y + offset.y)) = Spans.length (s.spansAt x y) := by
  have hvolume : MeasureTheory.volume ((s.translated offset).line (x + offset.x) (y + offset.y)) =
      MeasureTheory.volume (s.line x y) := by
    rw [line_translated]
    exact MeasureTheory.measure_preimage_add_right _ _ _
  rw [volume_line, volume_line] at hvolume
  have hmoved := (spansAt_isNormal (s.translated offset) (x + offset.x) (y + offset.y)).length_nonneg
  have hlength := (spansAt_isNormal s x y).length_nonneg
  exact (ENNReal.ofReal_eq_ofReal_iff hmoved hlength).1 hvolume

theorem integrate_translated (s : Solid ℝ) (offset : Vec3 ℝ) (xs ys : List (Cell ℝ)) :
    (s.translated offset).integrate (xs.map (Cell.moved offset.x)) (ys.map (Cell.moved offset.y)) =
      s.integrate xs ys := by
  rw [integrate_eq_sum, integrate_eq_sum, List.map_map]
  refine congrArg List.sum (List.map_congr_left fun a _ => ?_)
  rw [Function.comp_apply, List.map_map]
  refine congrArg List.sum (List.map_congr_left fun b _ => ?_)
  show Spans.length ((s.translated offset).spansAt (a.middle + offset.x) (b.middle + offset.y)) * a.width * b.width = _
  rw [length_spansAt_translated]

/-- The volume that is found does not depend on where a solid lies, however coarse the grid is. -/
theorem volume_translated {s : Solid ℝ} (h : s.WellFormed) (offset : Vec3 ℝ) (samples : Nat) :
    (s.translated offset).volume samples = s.volume samples := by
  rw [volume_eq_integrate, volume_eq_integrate, columns_translated h, rows_translated h, integrate_translated]

end Solid

/-! ### Stored solids -/

namespace Store

section

variable {K : Type} [Scalar K] [DecimalText K]

/-- Every handle that is known was given out. -/
theorem holds_of_find_history {config : StoreConfig K} {names : Nat → SolidId} {calls : List (StoreCall K)}
    {r : SolidRef} {solid : Solid K} (hr : (history step (empty config names) calls).2.find r = .ok solid) :
    (history step (empty config names) calls).2.Holds r solid := by
  let Inv (_ : List (StoreEvent K)) (s : Store K) : Prop := ∀ r solid, s.find r = .ok solid → s.Holds r solid
  have hempty : Inv [] (empty config names) := fun r solid h => by cases h
  have hstep (evs : List (StoreEvent K)) (s : Store K) (call : StoreCall K) (ih : Inv evs s) :
      Inv (evs ++ [(s.step call).1]) (s.step call).2 := by
    have hcases := s.step_cases call
    generalize s.step call = next at hcases
    cases hcases with
    | made call other =>
      intro r solid h
      by_cases hid : r.id = s.names s.drawn
      · exact ⟨h, s.drawn, Nat.lt_succ_self _, hid.symm⟩
      · have hold := h
        rw [find_insert_of_ne s other hid] at hold
        obtain ⟨-, n, hlt, hname⟩ := ih r solid hold
        exact ⟨h, n, Nat.lt_succ_of_lt hlt, hname⟩
    | cleared => exact fun r solid h => by cases h
    | same ev => exact ih
  exact history_induction hempty hstep calls r solid hr

/-- The solid under the handle that a program answers. -/
def answered (s : Store K) (x : Kernel K (StateM (Store K)) → ExceptT KernelError (StateM (Store K)) SolidRef) :
    Except KernelError (Solid K) :=
  match (x kernel).run.run s with
  | (.ok r, s') => s'.find r
  | (.error e, _) => .error e

theorem answered_make (s : Store K) (call : KernelCall K) : (s.answered fun k => k.make call) = s.made call := by
  rw [answered, run_kernel_make, make_eq]
  cases s.made call with
  | error e => rfl
  | ok solid => exact find_insert_self s solid

theorem make_translate {s : Store K} {r : SolidRef} {solid : Solid K} (hr : s.find r = .ok solid) (offset : Vec3 K) :
    s.make (.translate r offset) =
      (.ok (s.insert (solid.translated offset)).1, (s.insert (solid.translated offset)).2) := by
  have hmade : s.made (.translate r offset) = .ok (solid.translated offset) := made_translate.2 ⟨solid, hr, rfl⟩
  rw [make_eq, hmade]

/-- What follows a move has the moved solid beside all others. -/
theorem answered_translate_bind {s : Store K} {r : SolidRef} {solid : Solid K} (hr : s.find r = .ok solid)
    (offset : Vec3 K)
    (x : SolidRef → Kernel K (StateM (Store K)) → ExceptT KernelError (StateM (Store K)) SolidRef) :
    (s.answered fun k => k.translate r offset >>= fun r' => x r' k) =
      (s.insert (solid.translated offset)).2.answered (x (s.insert (solid.translated offset)).1) := by
  have hrun : ((kernel : Kernel K (StateM (Store K))).translate r offset).run.run s =
      (.ok (s.insert (solid.translated offset)).1, (s.insert (solid.translated offset)).2) :=
    (run_kernel_make s (.translate r offset)).trans (make_translate hr offset)
  rw [answered, run_bind, hrun]
  rfl

/-- What a cut answers depends on the two solids alone. -/
theorem answered_subtract {s : Store K} {target tool : SolidRef} {a b : Solid K} (ha : s.find target = .ok a)
    (hb : s.find tool = .ok b) : (s.answered fun k => k.subtract target tool) =
      if (Solid.difference a b).volume s.config.samples ≤ s.config.emptyVolume then
        .error (.booleanFailed "Cut leaves no material in the target solid")
      else .ok (.difference a b) := by
  refine (answered_make s (.subtract target tool)).trans ?_
  rw [made, ha, hb]
  rfl

end

section

variable [DecimalText ℝ] {s : Store ℝ} {a b : SolidRef} {target tool : Solid ℝ}

theorem answered_translate_translate (ha : s.find a = .ok target) (d₁ d₂ : Vec3 ℝ) :
    (s.answered fun k => do k.translate (← k.translate a d₁) d₂) = s.answered fun k => k.translate a (d₁ + d₂) := by
  have htwice := answered_translate_bind ha d₁ fun r' k => k.translate r' d₂
  have hmoved : (s.insert (target.translated d₁)).2.made (.translate (s.insert (target.translated d₁)).1 d₂) =
      .ok ((target.translated d₁).translated d₂) := made_translate.2 ⟨_, find_insert_self .., rfl⟩
  have honce : s.made (.translate a (d₁ + d₂)) = .ok (target.translated (d₁ + d₂)) :=
    made_translate.2 ⟨target, ha, rfl⟩
  calc (s.answered fun k => do k.translate (← k.translate a d₁) d₂)
      = .ok ((target.translated d₁).translated d₂) := (htwice.trans (answered_make _ (.translate _ d₂))).trans hmoved
    _ = .ok (target.translated (d₁ + d₂)) := by rw [Solid.translated_translated]
    _ = s.answered fun k => k.translate a (d₁ + d₂) := ((answered_make s (.translate a _)).trans honce).symm

/-- Cutting moved solids gives the moved cut, and is refused when the cut is. -/
theorem answered_moved_subtract (hn : Function.Injective s.names) (ha : s.find a = .ok target) (hb : s.Holds b tool)
    (htarget : target.WellFormed) (htool : tool.WellFormed) (offset : Vec3 ℝ) :
    (s.answered fun k => do k.subtract (← k.translate a offset) (← k.translate b offset)) =
      (s.answered fun k => k.subtract a b).map (Solid.translated offset) := by
  let s₁ := (s.insert (target.translated offset)).2
  let s₂ := (s₁.insert (tool.translated offset)).2
  have hn₁ : Function.Injective s₁.names := hn
  -- both moved solids are known where the cut is made
  have hb₁ : s₁.Holds b tool := hb.insert hn _
  have ha₁ : s₁.Holds (s.insert (target.translated offset)).1 (target.translated offset) := holds_insert_self ..
  have ha₂ : s₂.Holds (s.insert (target.translated offset)).1 (target.translated offset) := ha₁.insert hn₁ _
  have hb₂ : s₂.find (s₁.insert (tool.translated offset)).1 = .ok (tool.translated offset) := find_insert_self ..
  have hvolume : (Solid.difference (target.translated offset) (tool.translated offset)).volume s.config.samples =
      (Solid.difference target tool).volume s.config.samples := by
    rw [← Solid.translated_difference]
    exact Solid.volume_translated (.difference htarget htool) offset _
  have htargetMoved := answered_translate_bind ha offset fun a' k => do k.subtract a' (← k.translate b offset)
  have htoolMoved := answered_translate_bind hb₁.find_eq offset fun b' k =>
    k.subtract (s.insert (target.translated offset)).1 b'
  have hcut : (s₂.answered fun k => k.subtract (s.insert (target.translated offset)).1
        (s₁.insert (tool.translated offset)).1) =
      (s.answered fun k => k.subtract a b).map (Solid.translated offset) := by
    rw [answered_subtract ha₂.find_eq hb₂, answered_subtract ha hb.find_eq,
      show s₂.config = s.config from rfl, hvolume, ← Solid.translated_difference]
    split
    · rfl
    · rfl
  exact (htargetMoved.trans htoolMoved).trans hcut

/-- Whatever calls were made, moving solids changes nothing that is reported of them but where they lie: the box moves
along, the volume stays, and so do the points, seen from the solid. Two moves are one, and moves go past cuts. -/
theorem translate_of_history {config : StoreConfig ℝ} {names : Nat → SolidId} (hn : Function.Injective names)
    {calls : List (StoreCall ℝ)} (hs : (history step (empty config names) calls).2 = s)
    (ha : s.find a = .ok target) (hb : s.find b = .ok tool) (d d₁ d₂ : Vec3 ℝ) :
    (∃ a' s', s.make (.translate a d) = (.ok a', s') ∧ s'.find a' = .ok (target.translated d) ∧
      s'.bounds a' = (s.bounds a).map (fun box => ⟨box.min + d, box.max + d⟩) ∧
      s'.measure a' = (s.measure a).map (fun mass => ⟨mass.volume, ⟨mass.bounds.min + d, mass.bounds.max + d⟩⟩) ∧
      ∀ p, s'.contains a' (p + d) = s.contains a p) ∧
    (∀ samples, (target.translated d).volume samples = target.volume samples) ∧
    ((s.answered fun k => do k.translate (← k.translate a d₁) d₂) =
      s.answered fun k => k.translate a (d₁ + d₂)) ∧
    (s.answered fun k => do k.subtract (← k.translate a d) (← k.translate b d)) =
      (s.answered fun k => k.subtract a b).map (Solid.translated d) := by
  subst hs
  have hnames := (records_history config hn calls).injective
  have hwell {r : SolidRef} {solid : Solid ℝ} (hr : (history step (empty config names) calls).2.find r = .ok solid) :
      solid.WellFormed := by
    obtain ⟨id, hmem⟩ := mem_solids_of_find hr
    exact wellFormed_history config names calls _ hmem
  have hbounds := Solid.bounds_translated (hwell ha) d
  have hvolume := Solid.volume_translated (hwell ha) d
  have hcut := answered_moved_subtract hnames ha (holds_of_find_history hb) (hwell ha) (hwell hb) d
  refine ⟨⟨_, _, make_translate ha d, find_insert_self .., ?_, ?_, fun p => ?_⟩, hvolume,
    answered_translate_translate ha d₁ d₂, hcut⟩
  · rw [bounds_of_find (find_insert_self ..), bounds_of_find ha, hbounds]
    rfl
  · rw [measure_of_find (find_insert_self ..), measure_of_find ha, hbounds, hvolume]
    rfl
  · have hback : p + d - d = p := by
      ext <;> simp
    rw [contains_of_find (find_insert_self ..), contains_of_find ha, Solid.contains_translated, hback]

end

/-- A block, and a pin that is shorter than it. -/
def blockAndPin : List (StoreCall ℝ) :=
  [.make (.createBox ⟨24, 24, 24⟩ .all), .make (.extrude ⟨.xy, 0, [⟨⟨0, 0⟩, 1⟩]⟩ 22 .symmetric)]

/-- The block reaches beyond the pin. -/
private theorem le_volume_blockAndPin (samples : Nat) :
    288 ≤ (Solid.difference (.cuboid ⟨⟨-12, -12, -12⟩, ⟨12, 12, 12⟩⟩) (.cylinder .xy ⟨0, 0, 0⟩ 1 11) : Solid ℝ).volume
      samples := by
  have hlower := Solid.ofReal_size_le_volume (b := ⟨⟨-12, -12, -12⟩, ⟨12, 12, -23 / 2⟩⟩)
    (t := .cuboid ⟨⟨-12, -12, -12⟩, ⟨12, 12, 12⟩⟩) (u := .cylinder .xy ⟨0, 0, 0⟩ 1 11) (by simp [Solid.breaksX])
    (by simp [Solid.breaksY]) ?_ samples
  · rw [← ENNReal.ofReal_mul (by norm_num [Box.size]), ← ENNReal.ofReal_mul (by norm_num [Box.size]),
      ENNReal.ofReal_le_ofReal_iff (Solid.volume_nonneg ..)] at hlower
    norm_num [Box.size] at hlower
    exact hlower
  · intro p hp
    simp only [Solid.contains_cuboid, Box.contains_iff, Solid.contains_cylinder, ← Bool.not_eq_true,
      Solid.cylinderContains_iff, Plane.offsetOf_xy, Vec3.sub_z] at hp ⊢
    obtain ⟨hx, hy, hz, hz'⟩ := hp
    refine ⟨⟨hx, hy, hz, by linarith⟩, fun hin => ?_⟩
    linarith [(abs_le.1 hin.1).1]

theorem translate_of_history_blockAndPin : ∃ _ : DecimalText ℝ, ∃ s block pin target tool,
    (history step (empty ⟨16, 0⟩ unaryNames) blockAndPin).2 = s ∧ s.find block = .ok target ∧ s.find pin = .ok tool ∧
      (∃ moved s', s.make (.translate block ⟨1, 2, 3⟩) = (.ok moved, s') ∧
        s'.bounds moved = .ok ⟨⟨-11, -10, -9⟩, ⟨13, 14, 15⟩⟩) ∧
      (s.answered fun k => do k.subtract (← k.translate block ⟨1, 2, 3⟩) (← k.translate pin ⟨1, 2, 3⟩)) =
        .ok (.difference (.cuboid ⟨⟨-11, -10, -9⟩, ⟨13, 14, 15⟩⟩) (.cylinder .xy ⟨1, 2, 3⟩ 1 11)) := by
  let text : DecimalText ℝ := ⟨fun _ => ""⟩
  let block : Solid ℝ := .cuboid ⟨⟨-12, -12, -12⟩, ⟨12, 12, 12⟩⟩
  let pin : Solid ℝ := .cylinder .xy ⟨0, 0, 0⟩ 1 11
  let s₁ : Store ℝ := ((empty ⟨16, 0⟩ unaryNames).insert block).2
  let s : Store ℝ := (s₁.insert pin).2
  have hblock : (empty ⟨16, 0⟩ unaryNames : Store ℝ).made (.createBox ⟨24, 24, 24⟩ .all) = .ok block := by
    refine made_createBox.2 ⟨by simp [Vec3.isPositive_iff], ?_⟩
    norm_num [block, Box.ofCorners, Centering.minCorner, Centering.all, Vec3.lower, Vec3.upper, Vec3.scale]
  have hpin : s₁.made (.extrude ⟨.xy, 0, [⟨⟨0, 0⟩, 1⟩]⟩ 22 .symmetric) = .ok pin := by
    refine made_extrude.2 ⟨⟨Profile.fault?_eq_none_iff.2 (by simp [Circle.isProper_iff]), by simp⟩, ?_⟩
    norm_num [pin, swept, Direction.span, Plane.toWorld]
  have hs : (history step (empty ⟨16, 0⟩ unaryNames) blockAndPin).2 = s := by
    rw [blockAndPin, history_cons, history_cons, history_nil, step_make_of_made hblock, step_make_of_made hpin]
  have hfindPin : s.find (s₁.insert pin).1 = .ok pin := find_insert_self ..
  have hfindBlock : s.find ((empty ⟨16, 0⟩ unaryNames).insert block).1 = .ok block :=
    ((holds_insert_self (empty ⟨16, 0⟩ unaryNames) block).insert unaryNames_injective pin).find_eq
  obtain ⟨⟨moved, s', hmake, -, hbounds, -⟩, -, -, hcut⟩ :=
    translate_of_history unaryNames_injective hs hfindBlock hfindPin ⟨1, 2, 3⟩ ⟨0, 0, 0⟩ ⟨0, 0, 0⟩
  have hleft : ¬ (Solid.difference block pin).volume s.config.samples ≤ s.config.emptyVolume := by
    have hle := le_volume_blockAndPin s.config.samples
    have hempty : s.config.emptyVolume = 0 := rfl
    rw [hempty, not_le]
    exact lt_of_lt_of_le (by norm_num) hle
  refine ⟨text, s, _, _, _, _, hs, hfindBlock, hfindPin, ⟨moved, s', hmake, ?_⟩, ?_⟩
  · rw [hbounds, bounds_of_find hfindBlock]
    norm_num [block, Except.map, Vec3.ext_iff]
  · rw [hcut, answered_subtract hfindBlock hfindPin, if_neg hleft]
    norm_num [block, pin, Except.map, Box.translated, Vec3.ext_iff]

end Store

end SolidDrawing
