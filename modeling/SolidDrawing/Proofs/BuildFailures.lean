import SolidDrawing.Proofs.FloatSigns
import SolidDrawing.Proofs.Material

/-!
# How builds fail

A script that works on known handles fails only at a cut, or at a sweep over a distance that is not finite
(`Store.perform_or_fails`): every handle that a step uses is known, since no call takes a solid away. In the script of a
plan every other parameter was checked before, and checked parameters are those that the kernel takes
(`Plan.Verdict.isProper_or_overflows`). So the only parameter of a plan that a kernel can refuse is the depth of a
through-hole that overflows when it is doubled (`Store.build_ok_or_fails`).
-/

namespace SolidDrawing

open Operation

namespace BuildStep

variable {K : Type} [Scalar K]

/-- All that the kernel can refuse of the step is its distance, which is not finite. -/
def Overflows : BuildStep K → Prop
  | extrude profile distance _ => profile.fault? = none ∧ Scalar.isFinite distance = false
  | _ => False

/-- The errors that a step ends with. -/
inductive FailsWith [DecimalText K] : BuildStep K → KernelError → Prop
  | cut : FailsWith subtract (.booleanFailed "Cut leaves no material in the target solid")
  | sweep (profile : Profile K) {distance : K} (direction : Direction) (overflow : Scalar.isFinite distance = false) :
    FailsWith (extrude profile distance direction)
      (.operationFailed ("Extrusion distance must be positive, got " ++ DecimalText.text distance))

end BuildStep

namespace Store

/-! ### Known handles -/

section

variable {K : Type}

/-- The handle stands for a solid. -/
def Knows (s : Store K) (r : SolidRef) : Prop := ∃ solid, s.find r = .ok solid

theorem knows_insert_self (s : Store K) (solid : Solid K) : (s.insert solid).2.Knows (s.insert solid).1 :=
  ⟨solid, find_insert_self s solid⟩

/-- A new solid leaves all handles known, whatever its name is. -/
theorem Knows.insert {s : Store K} {r : SolidRef} (h : s.Knows r) (other : Solid K) :
    (s.insert other).2.Knows r := by
  obtain ⟨solid, hsolid⟩ := h
  by_cases hid : r.id = s.names s.drawn
  · have hfind : (s.insert other).2.find r = .ok other := by simp [find, Store.insert, hid]
    exact ⟨other, hfind⟩
  · exact ⟨solid, (find_insert_of_ne s other hid).trans hsolid⟩

variable [Scalar K] [DecimalText K]

/-! ### Scripts -/

/-- One step on known handles makes a solid, or fails with one of the errors for it. -/
theorem exists_made_or_fails {s : Store K} {h : Held SolidRef} (hcurrent : s.Knows h.current)
    (hlatest : s.Knows h.latest) {step : BuildStep K} (hstep : step.IsProper ∨ step.Overflows) :
    (∃ solid, s.made (step.call h) = .ok solid) ∨
      ∃ e, s.made (step.call h) = .error e ∧ step.FailsWith e := by
  obtain ⟨target, htarget⟩ := hcurrent
  obtain ⟨latest, hfind⟩ := hlatest
  cases step with
  | extrude profile distance direction =>
    rcases hstep with hproper | ⟨hprofile, hoverflow⟩
    · exact .inl ⟨_, made_extrude.2 ⟨hproper, rfl⟩⟩
    · right
      have hdistance : Scalar.isPositive distance = false := by simp [Scalar.isPositive, hoverflow]
      refine ⟨_, ?_, .sweep profile direction hoverflow⟩
      simp only [BuildStep.call, made, hprofile, hdistance]
      rfl
  | createBox size centering =>
    have hsize : size.isPositive = true := hstep.resolve_right id
    exact .inl ⟨_, made_createBox.2 ⟨hsize, rfl⟩⟩
  | translate offset => exact .inl ⟨_, made_translate.2 ⟨latest, hfind, rfl⟩⟩
  | subtract =>
    by_cases hvolume : (Solid.difference target latest).volume s.config.samples ≤ s.config.emptyVolume
    · right
      refine ⟨_, ?_, .cut⟩
      rw [BuildStep.call, made, htarget, hfind]
      simp [bind, Except.bind, hvolume]
    · exact .inl ⟨_, made_subtract.2 ⟨target, latest, htarget, hfind, hvolume, rfl⟩⟩

/-- A script on known handles comes to its end, or one of its steps fails with one of the errors for it. -/
theorem perform_or_fails {steps : List (BuildStep K)} (hsteps : ∀ step ∈ steps, step.IsProper ∨ step.Overflows)
    {s : Store K} {h : Held SolidRef} (hcurrent : s.Knows h.current) (hlatest : s.Knows h.latest) :
    (∃ h' s', ((kernel : Kernel K (StateM (Store K))).perform h steps).run.run s = (.ok h', s')) ∨
      ∃ step ∈ steps, ∃ e, step.FailsWith e ∧
        ∃ s', ((kernel : Kernel K (StateM (Store K))).perform h steps).run.run s = (.error e, s') := by
  induction steps generalizing s h with
  | nil => exact .inl ⟨h, s, rfl⟩
  | cons step steps ih =>
    obtain ⟨hstep, hrest⟩ := List.forall_mem_cons.1 hsteps
    rw [Kernel.perform_cons, run_bind, run_kernel_make, make_eq]
    rcases exists_made_or_fails hcurrent hlatest hstep with ⟨solid, hmade⟩ | ⟨e, hmade, hfails⟩
    · -- both handles are known for the steps behind: each is an old one, or that of the new solid
      have hknown : (s.insert solid).2.Knows (h.after step (s.insert solid).1).current := by
        unfold Held.after
        by_cases hcut : step.isCut = true
        · rw [if_pos hcut]
          exact knows_insert_self s solid
        · rw [if_neg hcut]
          exact hcurrent.insert solid
      rw [hmade]
      rcases ih hrest hknown (knows_insert_self s solid) with hok | ⟨later, hlater, e, hfails, hrun⟩
      · exact .inl hok
      · exact .inr ⟨later, List.mem_cons_of_mem _ hlater, e, hfails, hrun⟩
    · rw [hmade]
      exact .inr ⟨step, List.mem_cons_self, e, hfails, s, rfl⟩

/-- Carrying out a plan answers a handle, or a step behind the base fails with one of the errors for it. -/
theorem execute_or_fails {plan : Plan K} (hbase : plan.base.call.step.IsProper)
    (hfurther : ∀ step ∈ plan.further, step.IsProper ∨ step.Overflows) (s : Store K) :
    (∃ r s', ((kernel : Kernel K (StateM (Store K))).execute plan).run.run s = (.ok r, s')) ∨
      ∃ step ∈ plan.further, ∃ e, step.FailsWith e ∧
        ∃ s', ((kernel : Kernel K (StateM (Store K))).execute plan).run.run s = (.error e, s') := by
  have hmade : ∃ solid, s.made plan.base.call = .ok solid := by
    cases hplan : plan.base with
    | box b =>
      rw [hplan] at hbase
      exact ⟨_, made_createBox.2 ⟨hbase, rfl⟩⟩
    | sketch profile holes length =>
      rw [hplan] at hbase
      exact ⟨_, made_extrude.2 ⟨hbase, rfl⟩⟩
  obtain ⟨solid, hmade⟩ := hmade
  have hknown := knows_insert_self s solid
  rw [Kernel.execute_eq_perform, run_bind, run_kernel_make, make_eq, hmade]
  rcases perform_or_fails hfurther (h := ⟨_, _⟩) hknown hknown with ⟨h', s', hrun⟩ | ⟨step, hstep, e, hfails, s', hrun⟩
  · exact .inl ⟨h'.current, s', run_map_of_run hrun Held.current⟩
  · exact .inr ⟨step, hstep, e, hfails, s', run_map_of_run hrun Held.current⟩

end

end Store

/-! ### Checked parameters -/

section

variable {x : Float}

theorem isNumber_of_isFinite (h : Scalar.isFinite x = true) : IsNumber x := by
  have hfinite : x.toModel.unpack.isFinite = true := h
  show x.toModel.unpack.isNaN = false
  cases hx : x.toModel.unpack with
  | notANumber =>
    rw [hx] at hfinite
    cases hfinite
  | _ => rfl

theorem isPositive_of_lengthFault? {field : String} (h : lengthFault? field x = none) : Scalar.isPositive x = true := by
  unfold lengthFault? at h
  by_cases hfinite : Scalar.isFinite x = true
  · by_cases hle : x ≤ 0
    · simp [hfinite, hle] at h
    · have hx := isNumber_of_isFinite hfinite
      have hzero : IsNumber 0 := rfl
      have hlt : 0 < x := by
        rw [floatValue_le_iff hx hzero, not_le] at hle
        exact (floatValue_lt_iff hzero hx).2 hle
      rw [Scalar.isPositive, hfinite]
      exact decide_eq_true hlt
  · simp [hfinite] at h

theorem isPositive_mul_two (h : Scalar.isPositive x = true) (hfinite : Scalar.isFinite (x * 2) = true) :
    Scalar.isPositive (x * 2) = true := by
  rw [Scalar.isPositive, Bool.and_eq_true, decide_eq_true_eq] at h ⊢
  exact ⟨hfinite, zero_lt_mul_two h.2⟩

theorem isPositive_of_sizeFault? {size : Vec3 Float} (h : sizeFault? size = none) : size.isPositive = true := by
  simp only [sizeFault?, Option.orElse_eq_orElse, Option.orElse_eq_or, Option.or_eq_none_iff] at h
  obtain ⟨hwidth, hdepth, hheight⟩ := h
  have hx := isPositive_of_lengthFault? hwidth
  have hy := isPositive_of_lengthFault? hdepth
  have hz := isPositive_of_lengthFault? hheight
  simp only [Scalar.isPositive, Bool.and_eq_true, decide_eq_true_eq] at hx hy hz
  simp [Vec3.isPositive, Vec3.isFinite, hx, hy, hz]

end

/-- Circles around the origin with checked radii can be filled. -/
theorem SketchCircle.fault?_profile {circles : List (SketchCircle Float)} (hne : circles ≠ [])
    (h : ∀ c ∈ circles, (sketchCircle c).fault? = none) : (SketchCircle.profile circles).fault? = none := by
  refine Profile.fault?_eq_none_iff.2 ⟨by simpa [SketchCircle.profile] using hne, ?_⟩
  intro circle hcircle
  obtain ⟨c, hc, rfl⟩ := List.mem_map.1 hcircle
  have hradius : Scalar.isPositive c.radius = true := isPositive_of_lengthFault? (h c hc)
  have horigin : (Vec2.zero : Vec2 Float).isFinite = true := by decide +kernel
  rw [Circle.isProper, hradius, horigin]
  rfl

theorem CutBox.isProper_of_fault? {c : CutBox Float} (h : (cutBox c).fault? = none) :
    ∀ step ∈ c.steps, step.IsProper := by
  simp only [fault?, Option.orElse_eq_orElse, Option.orElse_eq_or, Option.or_eq_none_iff] at h
  have hsize : c.size.isPositive = true := isPositive_of_sizeFault? h.1
  intro step hstep
  simp only [steps, List.mem_cons, List.not_mem_nil, or_false] at hstep
  rcases hstep with rfl | rfl | rfl
  · exact hsize
  · trivial
  · trivial

/-- The kernel takes what a through-hole is swept by, unless its doubled depth is not finite. -/
theorem ThroughHole.isProper_or_overflows {h : ThroughHole Float} (hh : (throughHole h).fault? = none) :
    ∀ step ∈ h.steps, step.IsProper ∨ step.Overflows ∧ Scalar.isFinite (h.depth * 2) = false := by
  simp only [fault?, Option.orElse_eq_orElse, Option.orElse_eq_or, Option.or_eq_none_iff] at hh
  obtain ⟨hradius, hdepth, hcenter⟩ := hh
  have hround := isPositive_of_lengthFault? hradius
  have hcenter : h.center.isFinite = true := by
    unfold pointFault? at hcenter
    simpa using hcenter
  have hlocal : (h.axis.plane.toLocal h.center).isFinite = true := by
    simp only [Vec3.isFinite, Bool.and_eq_true] at hcenter
    cases h.axis <;> simp [Axis.plane, Plane.toLocal, Vec2.isFinite, hcenter]
  have hprofile : h.profile.fault? = none := by
    refine Profile.fault?_eq_none_iff.2 ⟨by simp [profile], ?_⟩
    simp [profile, Circle.isProper, hround, hlocal]
  intro step hstep
  simp only [steps, List.mem_cons, List.not_mem_nil, or_false] at hstep
  rcases hstep with rfl | rfl
  · by_cases hfinite : Scalar.isFinite (h.depth * 2) = true
    · exact .inl ⟨hprofile, isPositive_mul_two (isPositive_of_lengthFault? hdepth) hfinite⟩
    · rw [Bool.not_eq_true] at hfinite
      exact .inr ⟨⟨hprofile, hfinite⟩, hfinite⟩
  · exact .inl trivial

namespace Plan.Verdict

variable {spec : SolidSpec Float} {plan : Plan Float}

/-- The kernel takes what the base of a plan is made by. -/
theorem isProper_base (h : Verdict spec (.ok plan)) : plan.base.call.step.IsProper := by
  have hsound := h.isSound
  cases h with
  | box _ hbox => exact isPositive_of_sizeFault? (hsound.fault?_eq_none hbox)
  | @sketch e _ _ swept filled =>
    refine ⟨SketchCircle.fault?_profile ?_ ?_, isPositive_of_lengthFault? (hsound.fault?_eq_none swept)⟩
    · intro hnil
      obtain ⟨c, hc, hfilled⟩ := filled
      have hhole := filter_circles_eq_nil.1 hnil c hc
      rw [hfilled] at hhole
      cases hhole
    · intro c hc
      exact hsound.fault?_eq_none (mem_filterMap_circle?.1 (List.mem_of_mem_filter hc))

theorem isProper_of_mem_base_steps (h : Verdict spec (.ok plan)) : ∀ step ∈ plan.base.steps, step.IsProper := by
  have hsound := h.isSound
  cases h with
  | box => simp [Base.steps]
  | @sketch e _ _ swept _ =>
    have hlength : Scalar.isPositive e.length = true := isPositive_of_lengthFault? (hsound.fault?_eq_none swept)
    intro step hstep
    obtain ⟨hole, hhole, hstep⟩ := List.mem_flatMap.1 hstep
    have hchecked := hsound.fault?_eq_none (mem_filterMap_circle?.1 (List.mem_of_mem_filter hhole))
    have hprofile : (SketchCircle.profile [hole]).fault? = none :=
      SketchCircle.fault?_profile (by simp) (by simpa using hchecked)
    simp only [List.mem_cons, List.not_mem_nil, or_false] at hstep
    rcases hstep with rfl | rfl
    · exact ⟨hprofile, hlength⟩
    · trivial

/-- Behind the base, the kernel takes the parameters of every step but the sweep of a hole that overflows when it is
doubled. -/
theorem isProper_or_overflows (h : Verdict spec (.ok plan)) : ∀ step ∈ plan.further, step.IsProper ∨
    step.Overflows ∧ ∃ hole, throughHole hole ∈ spec.operations ∧ step ∈ hole.steps ∧
      Scalar.isFinite (hole.depth * 2) = false := by
  have hsound := h.isSound
  intro step hstep
  simp only [further, List.mem_append, List.mem_flatMap] at hstep
  rcases hstep with (hstep | ⟨c, hc, hstep⟩) | ⟨hole, hhole, hstep⟩
  · exact .inl (h.isProper_of_mem_base_steps step hstep)
  · have hmem := mem_filterMap_cutBox?.1 (h.cutBoxes_eq ▸ hc)
    exact .inl (CutBox.isProper_of_fault? (hsound.fault?_eq_none hmem) step hstep)
  · have hmem := mem_filterMap_throughHole?.1 (h.throughHoles_eq ▸ hhole)
    rcases ThroughHole.isProper_or_overflows (hsound.fault?_eq_none hmem) step hstep with hproper | ⟨hover, hdepth⟩
    · exact .inl hproper
    · exact .inr ⟨hover, hole, hmem, hstep, hdepth⟩

end Plan.Verdict

/-! ### Builds -/

namespace Store

/-- Whatever is in the store, of a plan the kernel takes the parameters of every step but the sweep of a through-hole
whose depth overflows when it is doubled. The solid is built, or a cut leaves too little, or such a sweep is refused. -/
theorem build_ok_or_fails {spec : SolidSpec Float} {plan : Plan Float} (hp : Plan.ofSpec spec = .ok plan)
    (s : Store Float) :
    (∀ step ∈ plan.steps, step.IsProper ∨
      ∃ hole, throughHole hole ∈ spec.operations ∧ step ∈ hole.steps ∧ Scalar.isFinite (hole.depth * 2) = false) ∧
    ((∃ r s', ((kernel : Kernel Float (StateM (Store Float))).build spec).run.run s = (.ok r, s')) ∨
      (∃ s', ((kernel : Kernel Float (StateM (Store Float))).build spec).run.run s =
        (.error (.kernel spec.id (.booleanFailed "Cut leaves no material in the target solid")), s')) ∨
      ∃ hole, throughHole hole ∈ spec.operations ∧ Scalar.isFinite (hole.depth * 2) = false ∧
        ∃ s', ((kernel : Kernel Float (StateM (Store Float))).build spec).run.run s = (.error (.kernel spec.id
          (.operationFailed ("Extrusion distance must be positive, got " ++ DecimalText.text (hole.depth * 2)))),
          s')) := by
  have hverdict := Plan.Verdict.of_ofSpec hp
  have hbase := hverdict.isProper_base
  have hfurther := hverdict.isProper_or_overflows
  constructor
  · intro step hstep
    rcases List.mem_cons.1 hstep with rfl | hstep
    · exact .inl hbase
    · exact (hfurther step hstep).imp_right And.right
  · rw [Kernel.build, hp]
    rcases execute_or_fails hbase (fun step hstep => (hfurther step hstep).imp_right And.left) s with
      ⟨r, s', hrun⟩ | ⟨step, hstep, e, hfails, s', hrun⟩
    · exact .inl ⟨r, s', run_adapt_of_eq hrun _⟩
    · have hrun := run_adapt_of_eq hrun (BuildError.kernel (K := Float) spec.id)
      cases hfails with
      | cut => exact .inr (.inl ⟨s', hrun⟩)
      | sweep profile direction overflow =>
        rcases hfurther _ hstep with hproper | ⟨-, hole, hhole, hmem, hdepth⟩
        · -- a proper distance is finite
          have hdistance := hproper.2
          rw [Scalar.isPositive, overflow] at hdistance
          cases hdistance
        · simp only [ThroughHole.steps, List.mem_cons, BuildStep.extrude.injEq, List.not_mem_nil, or_false,
            reduceCtorEq] at hmem
          obtain ⟨-, rfl, -⟩ := hmem
          exact .inr (.inr ⟨hole, hhole, hdepth, s', hrun⟩)

/-- A block with a hole whose depth is finite and whose length is not. -/
def endlessHole : SolidSpec Float :=
  ⟨"block", [.baseBox ⟨4, 4, 4, true, false⟩, .throughHole ⟨1, 1.5e308, .z, ⟨0, 0, 0⟩⟩]⟩

theorem build_ok_or_fails_endlessHole : ∃ plan, Plan.ofSpec endlessHole = .ok plan ∧
    ∃ hole, throughHole hole ∈ endlessHole.operations ∧ Scalar.isFinite hole.depth = true ∧
      Scalar.isFinite (hole.depth * 2) = false ∧
      ∃ s', ((kernel : Kernel Float (StateM (Store Float))).build endlessHole).run.run (empty ⟨16, 0⟩ unaryNames) =
        (.error (.kernel "block" (.operationFailed "Extrusion distance must be positive, got inf")), s') := by
  have hp : Plan.ofSpec endlessHole =
      .ok ⟨"block", .box ⟨4, 4, 4, true, false⟩, [], [⟨1, 1.5e308, .z, ⟨0, 0, 0⟩⟩]⟩ := by
    decide +kernel
  have hresult : (((kernel : Kernel Float (StateM (Store Float))).build endlessHole).run.run
      (empty ⟨16, 0⟩ unaryNames)).1 =
        .error (.kernel "block" (.operationFailed "Extrusion distance must be positive, got inf")) := by
    decide +kernel
  obtain ⟨-, ⟨r, s', hrun⟩ | ⟨s', hrun⟩ | ⟨hole, hhole, hdepth, s', hrun⟩⟩ :=
    build_ok_or_fails hp (empty ⟨16, 0⟩ unaryNames)
  · rw [hrun] at hresult
    cases hresult
  · rw [hrun] at hresult
    cases hresult
  · have heq : hole = ⟨1, 1.5e308, .z, ⟨0, 0, 0⟩⟩ := by simpa [endlessHole] using hhole
    have hfinite : Scalar.isFinite hole.depth = true := by
      rw [heq]
      decide +kernel
    rw [hrun] at hresult ⊢
    exact ⟨_, hp, hole, hhole, hfinite, hdepth, s', by rw [← hresult]⟩

end Store

end SolidDrawing
