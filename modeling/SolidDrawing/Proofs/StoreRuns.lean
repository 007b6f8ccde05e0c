import Mathlib.Logic.Function.Basic
import SolidDrawing.Kernel.Store
import SolidDrawing.Proofs.Runs
import SolidDrawing.Proofs.Script

/-!
# Builds on a store of solids

As long as names do not repeat, a handle that was given out keeps its solid (`Store.Holds.of_make`). A script that is
performed on handles then ends with handles to the solids that it ends with when it is performed on the solids
themselves (`Store.holds_perform`), so that the solid of a plan can be written down without a store: `Plan.tree` is the
solid under the handle that a build answers. With proper parameters a script stops only at a cut that leaves too little
(`Store.perform_cases`), and one that comes to its end has left enough at each (`Store.not_volume_le_of_perform`).
-/

namespace SolidDrawing

variable {K : Type}

namespace Store

/-! ### Handles -/

/-- The handle was given out and stands for the solid. -/
def Holds (s : Store K) (r : SolidRef) (solid : Solid K) : Prop :=
  s.find r = .ok solid ∧ ∃ n < s.drawn, s.names n = r.id

theorem Holds.find_eq {s : Store K} {r : SolidRef} {solid : Solid K} (h : s.Holds r solid) :
    s.find r = .ok solid := h.1

theorem holds_insert_self (s : Store K) (solid : Solid K) : (s.insert solid).2.Holds (s.insert solid).1 solid :=
  ⟨find_insert_self s solid, s.drawn, Nat.lt_succ_self _, rfl⟩

theorem mem_solids_of_find {s : Store K} {r : SolidRef} {solid : Solid K} (h : s.find r = .ok solid) :
    ∃ id, (id, solid) ∈ s.solids := by
  rw [find] at h
  cases hfind : s.solids.find? fun entry => entry.1 == r.id with
  | none => simp [hfind] at h
  | some entry =>
    simp only [hfind, Except.ok.injEq] at h
    exact ⟨entry.1, h ▸ List.mem_of_find?_eq_some hfind⟩

/-- The next name differs from all those that were given out. -/
theorem ne_of_drawn {s : Store K} (hn : Function.Injective s.names) {r : SolidRef}
    (h : ∃ n < s.drawn, s.names n = r.id) : r.id ≠ s.names s.drawn := by
  obtain ⟨n, hlt, hname⟩ := h
  rw [← hname]
  exact fun heq => absurd (hn heq) (Nat.ne_of_lt hlt)

theorem Holds.insert {s : Store K} (hn : Function.Injective s.names) {r : SolidRef} {solid : Solid K}
    (h : s.Holds r solid) (other : Solid K) : (s.insert other).2.Holds r solid := by
  obtain ⟨hfind, n, hlt, hname⟩ := h
  have hne : r.id ≠ s.names s.drawn := ne_of_drawn hn ⟨n, hlt, hname⟩
  exact ⟨(find_insert_of_ne s other hne).trans hfind, n, Nat.lt_succ_of_lt hlt, hname⟩

variable [Scalar K] [DecimalText K]

/-- What a call that makes a solid does to the store. -/
theorem make_eq (s : Store K) (call : KernelCall K) : s.make call =
    match s.made call with
    | .ok solid => (.ok (s.insert solid).1, (s.insert solid).2)
    | .error e => (.error e, s) := by
  cases h : s.made call <;> simp [make, h]

theorem names_of_make {s s' : Store K} {call : KernelCall K} {answer : Except KernelError SolidRef}
    (h : s.make call = (answer, s')) : s'.names = s.names := by
  obtain rfl : s' = (s.make call).2 := by rw [h]
  rw [make_eq]
  cases s.made call <;> rfl

theorem config_of_make {s s' : Store K} {call : KernelCall K} {answer : Except KernelError SolidRef}
    (h : s.make call = (answer, s')) : s'.config = s.config := by
  obtain rfl : s' = (s.make call).2 := by rw [h]
  rw [make_eq]
  cases s.made call <;> rfl

/-- No call takes a solid away from its handle. -/
theorem Holds.of_make {s s' : Store K} (hn : Function.Injective s.names) {r : SolidRef} {solid : Solid K}
    (hr : s.Holds r solid) {call : KernelCall K} {answer : Except KernelError SolidRef}
    (h : s.make call = (answer, s')) : s'.Holds r solid := by
  obtain rfl : s' = (s.make call).2 := by rw [h]
  rw [make_eq]
  cases s.made call with
  | ok other => exact hr.insert hn other
  | error e => exact hr

/-- A call that succeeds answers a handle to what it makes. -/
theorem exists_of_make_eq_ok {s s' : Store K} {call : KernelCall K} {r : SolidRef} (h : s.make call = (.ok r, s')) :
    ∃ solid, s.made call = .ok solid ∧ s'.Holds r solid := by
  rw [make_eq] at h
  cases hm : s.made call with
  | error e => simp [hm] at h
  | ok solid =>
    simp only [hm, Prod.mk.injEq, Except.ok.injEq] at h
    obtain ⟨rfl, rfl⟩ := h
    exact ⟨solid, rfl, holds_insert_self s solid⟩

/-! ### What is read off a solid -/

omit [DecimalText K] in
theorem contains_of_find {s : Store K} {r : SolidRef} {solid : Solid K} (h : s.find r = .ok solid) (p : Vec3 K) :
    s.contains r p = .ok (solid.contains p) := by
  rw [contains, h]
  rfl

omit [DecimalText K] in
theorem bounds_of_find {s : Store K} {r : SolidRef} {solid : Solid K} (h : s.find r = .ok solid) :
    s.bounds r = .ok solid.bounds := by
  rw [bounds, h]
  rfl

omit [DecimalText K] in
theorem measure_of_find {s : Store K} {r : SolidRef} {solid : Solid K} (h : s.find r = .ok solid) :
    s.measure r = .ok ⟨solid.volume s.config.samples, solid.bounds⟩ := by
  rw [measure, h]
  rfl

/-! ### What a call makes -/

theorem made_extrude {s : Store K} {profile : Profile K} {distance : K} {direction : Direction} {solid : Solid K} :
    s.made (.extrude profile distance direction) = .ok solid ↔
      (profile.fault? = none ∧ Scalar.isPositive distance = true) ∧ solid = swept profile distance direction := by
  rw [made]
  cases profile.fault? with
  | some fault => simp
  | none =>
    by_cases hd : Scalar.isPositive distance = true
    · simp [hd, eq_comm]
    · simp [hd]

theorem made_createBox {s : Store K} {size : Vec3 K} {centering : Centering} {solid : Solid K} :
    s.made (.createBox size centering) = .ok solid ↔ size.isPositive = true ∧
      solid = .cuboid (.ofCorners (centering.minCorner size) (centering.minCorner size + size)) := by
  rw [made]
  by_cases hs : size.isPositive = true
  · simp [hs, eq_comm]
  · simp [hs]

theorem made_subtract {s : Store K} {target tool : SolidRef} {solid : Solid K} :
    s.made (.subtract target tool) = .ok solid ↔ ∃ a b, s.find target = .ok a ∧ s.find tool = .ok b ∧
      ¬ (Solid.difference a b).volume s.config.samples ≤ s.config.emptyVolume ∧ solid = .difference a b := by
  rw [made]
  cases s.find target with
  | error e => simp [bind, Except.bind]
  | ok a =>
    cases s.find tool with
    | error e => simp [bind, Except.bind]
    | ok b =>
      by_cases hv : (Solid.difference a b).volume s.config.samples ≤ s.config.emptyVolume
      · simp [bind, Except.bind, hv]
      · simp [bind, Except.bind, hv, eq_comm]

theorem made_translate {s : Store K} {r : SolidRef} {offset : Vec3 K} {solid : Solid K} :
    s.made (.translate r offset) = .ok solid ↔ ∃ a, s.find r = .ok a ∧ solid = a.translated offset := by
  rw [made]
  cases s.find r <;> simp [Except.map, eq_comm]

theorem run_kernel_make (s : Store K) (call : KernelCall K) :
    ((kernel : Kernel K (StateM (Store K))).make call).run.run s = s.make call := by
  cases call <;> rfl

end Store

/-! ### Scripts on solids -/

variable [Scalar K]

/-- The solid that a step makes. -/
def BuildStep.tree (h : Held (Solid K)) : BuildStep K → Solid K
  | extrude profile distance direction => Store.swept profile distance direction
  | createBox size centering => .cuboid (.ofCorners (centering.minCorner size) (centering.minCorner size + size))
  | translate offset => h.latest.translated offset
  | subtract => .difference h.current h.latest

/-- The kernel takes the parameters of the step. -/
def BuildStep.IsProper : BuildStep K → Prop
  | extrude profile distance _ => profile.fault? = none ∧ Scalar.isPositive distance = true
  | createBox size _ => size.isPositive = true
  | _ => True

/-- Performs a script on solids. -/
def Held.perform (h : Held (Solid K)) (steps : List (BuildStep K)) : Held (Solid K) :=
  steps.foldl (fun h step => h.after step (step.tree h)) h

theorem Held.perform_append (h : Held (Solid K)) (steps steps' : List (BuildStep K)) :
    h.perform (steps ++ steps') = (h.perform steps).perform steps' := List.foldl_append

/-- The solid of a base before anything is taken away. -/
def Base.tree : Base K → Solid K
  | .box b => .cuboid (.ofCorners (Centering.minCorner ⟨b.centeredXy, b.centeredZ⟩ b.size)
      (Centering.minCorner ⟨b.centeredXy, b.centeredZ⟩ b.size + b.size))
  | .sketch profile _ length => Store.swept (SketchCircle.profile profile) length .positive

/-- The solid of a plan. -/
def Plan.tree (p : Plan K) : Solid K := (Held.perform ⟨p.base.tree, p.base.tree⟩ p.further).current

/-! ### Tools -/

/-- The box that a cut takes away. -/
def CutBox.tool (c : CutBox K) : Solid K :=
  .translated c.center (.cuboid (.ofCorners (Centering.all.minCorner c.size) (Centering.all.minCorner c.size + c.size)))

/-- The cylinder that a through-hole takes away. -/
def ThroughHole.tool (h : ThroughHole K) : Solid K := Store.swept h.profile (h.depth * 2) .symmetric

/-- The solids that are taken away to finish a base. -/
def Base.tools : Base K → List (Solid K)
  | .box _ => []
  | .sketch _ holes length => holes.map fun hole => Store.swept (SketchCircle.profile [hole]) length .positive

/-- The solids that a plan takes away, in order. -/
def Plan.tools (p : Plan K) : List (Solid K) :=
  p.base.tools ++ p.cutBoxes.map CutBox.tool ++ p.throughHoles.map ThroughHole.tool

private theorem Held.perform_flatMap {α : Type} {f : α → List (BuildStep K)} {g : α → Solid K}
    (hf : ∀ a c l, Held.perform ⟨c, l⟩ (f a) = ⟨.difference c (g a), .difference c (g a)⟩) (as : List α)
    (c : Solid K) : Held.perform ⟨c, c⟩ (as.flatMap f) =
      ⟨(as.map g).foldl .difference c, (as.map g).foldl .difference c⟩ := by
  induction as generalizing c with
  | nil => rfl
  | cons a as ih =>
    rw [List.flatMap_cons, Held.perform_append, hf, ih]
    rfl

/-- A plan takes one tool after the other from its base. -/
theorem Plan.tree_eq_foldl (p : Plan K) : p.tree = p.tools.foldl .difference p.base.tree := by
  have hbase : Held.perform ⟨p.base.tree, p.base.tree⟩ p.base.steps =
      ⟨p.base.tools.foldl .difference p.base.tree, p.base.tools.foldl .difference p.base.tree⟩ := by
    cases p.base with
    | box b => rfl
    | sketch profile holes length => exact Held.perform_flatMap (fun _ _ _ => rfl) holes _
  rw [tree, further, Held.perform_append, Held.perform_append, hbase,
    Held.perform_flatMap (g := CutBox.tool) (fun _ _ _ => rfl),
    Held.perform_flatMap (g := ThroughHole.tool) (fun _ _ _ => rfl), tools, List.foldl_append, List.foldl_append]

namespace Store

variable [DecimalText K]

/-- The handles that a script works on stand for the solids. -/
def HoldsBoth (s : Store K) (hr : Held SolidRef) (ht : Held (Solid K)) : Prop :=
  s.Holds hr.current ht.current ∧ s.Holds hr.latest ht.latest

private theorem eq_tree_of_made {s : Store K} {hr : Held SolidRef} {ht : Held (Solid K)} (hh : s.HoldsBoth hr ht)
    {step : BuildStep K} {solid : Solid K} (h : s.made (step.call hr) = .ok solid) : solid = step.tree ht := by
  cases step with
  | extrude profile distance direction => exact (made_extrude.1 h).2
  | createBox size centering => exact (made_createBox.1 h).2
  | translate offset =>
    obtain ⟨a, ha, rfl⟩ := made_translate.1 h
    obtain rfl := Except.ok.inj (hh.2.find_eq.symm.trans ha)
    rfl
  | subtract =>
    obtain ⟨a, b, ha, hb, -, rfl⟩ := made_subtract.1 h
    obtain rfl := Except.ok.inj (hh.1.find_eq.symm.trans ha)
    obtain rfl := Except.ok.inj (hh.2.find_eq.symm.trans hb)
    rfl

/-- After a step the handles stand for the solids after the step. -/
theorem HoldsBoth.after {s s' : Store K} (hn : Function.Injective s.names) {hr : Held SolidRef}
    {ht : Held (Solid K)} (hh : s.HoldsBoth hr ht) {step : BuildStep K} {r : SolidRef}
    (h : s.make (step.call hr) = (.ok r, s')) : s'.HoldsBoth (hr.after step r) (ht.after step (step.tree ht)) := by
  obtain ⟨solid, hmade, hnew⟩ := exists_of_make_eq_ok h
  obtain rfl := eq_tree_of_made hh hmade
  have hold : s'.Holds hr.current ht.current := hh.1.of_make hn h
  refine ⟨?_, hnew⟩
  simp only [Held.after]
  split
  · exact hnew
  · exact hold

theorem holds_perform {steps : List (BuildStep K)} {s s' : Store K} (hn : Function.Injective s.names)
    {hr hr' : Held SolidRef} {ht : Held (Solid K)} (hh : s.HoldsBoth hr ht)
    (h : ((kernel : Kernel K (StateM (Store K))).perform hr steps).run.run s = (.ok hr', s')) :
    s'.HoldsBoth hr' (ht.perform steps) := by
  induction steps generalizing s hr ht with
  | nil =>
    cases h
    exact hh
  | cons step steps ih =>
    rw [Kernel.perform_cons] at h
    obtain ⟨r, s₁, hmake, h⟩ := exists_of_run_bind h
    rw [run_kernel_make] at hmake
    exact ih (names_of_make hmake ▸ hn) (hh.after hn hmake) h

/-! ### Runs that fail -/

/-- Of steps with proper parameters only a cut fails, when it leaves too little. -/
theorem made_call {s : Store K} {hr : Held SolidRef} {ht : Held (Solid K)} (hh : s.HoldsBoth hr ht) {step : BuildStep K}
    (hstep : step.IsProper) : s.made (step.call hr) = .ok (step.tree ht) ∨
      step = .subtract ∧ (step.tree ht).volume s.config.samples ≤ s.config.emptyVolume ∧
        ∃ reason, s.made (step.call hr) = .error (.booleanFailed reason) := by
  cases step with
  | extrude profile distance direction => exact .inl (made_extrude.2 ⟨hstep, rfl⟩)
  | createBox size centering => exact .inl (made_createBox.2 ⟨hstep, rfl⟩)
  | translate offset => exact .inl (made_translate.2 ⟨_, hh.2.find_eq, rfl⟩)
  | subtract =>
    by_cases hv : (BuildStep.subtract.tree ht).volume s.config.samples ≤ s.config.emptyVolume
    · refine .inr ⟨rfl, hv, "Cut leaves no material in the target solid", ?_⟩
      rw [BuildStep.tree] at hv
      rw [BuildStep.call, made, hh.1.find_eq, hh.2.find_eq]
      simp [bind, Except.bind, hv]
    · exact .inl (made_subtract.2 ⟨_, _, hh.1.find_eq, hh.2.find_eq, hv, rfl⟩)

/-- A script with proper parameters is performed to its end, or to a cut that leaves too little. -/
theorem perform_cases {steps : List (BuildStep K)} (hsteps : ∀ step ∈ steps, step.IsProper) {s : Store K}
    (hn : Function.Injective s.names) {hr : Held SolidRef} {ht : Held (Solid K)} (hh : s.HoldsBoth hr ht) :
    (∃ hr' s', ((kernel : Kernel K (StateM (Store K))).perform hr steps).run.run s = (.ok hr', s')) ∨
      ∃ pre post, steps = pre ++ .subtract :: post ∧
        (BuildStep.subtract.tree (ht.perform pre)).volume s.config.samples ≤ s.config.emptyVolume ∧
        ∃ reason s', ((kernel : Kernel K (StateM (Store K))).perform hr steps).run.run s =
          (.error (.booleanFailed reason), s') := by
  induction steps generalizing s hr ht with
  | nil => exact .inl ⟨hr, s, rfl⟩
  | cons step steps ih =>
    rw [List.forall_mem_cons] at hsteps
    rw [Kernel.perform_cons, run_bind, run_kernel_make]
    rcases made_call hh hsteps.1 with hmade | ⟨rfl, hv, reason, hmade⟩
    · have hmake : s.make (step.call hr) = (.ok (s.insert (step.tree ht)).1, (s.insert (step.tree ht)).2) := by
        rw [make_eq, hmade]
      have hn' : Function.Injective (s.insert (step.tree ht)).2.names := hn
      rw [hmake]
      rcases ih hsteps.2 hn' (hh.after hn hmake) with hok | ⟨pre, post, rfl, hv, hfail⟩
      · exact .inl hok
      · exact .inr ⟨step :: pre, post, rfl, hv, hfail⟩
    · refine .inr ⟨[], steps, rfl, hv, reason, s, ?_⟩
      rw [make_eq, hmade]

/-! ### Builds -/

private theorem made_base {s : Store K} {base : Base K} {solid : Solid K} :
    s.made base.call = .ok solid ↔ base.call.step.IsProper ∧ solid = base.tree := by
  cases base with
  | box b => exact made_createBox
  | sketch profile holes length => exact made_extrude

/-- A plan that is carried out has its base made, and its script performed to the end. -/
private theorem exists_perform_of_execute {s s' : Store K} {plan : Plan K} {r : SolidRef}
    (h : ((kernel : Kernel K (StateM (Store K))).execute plan).run.run s = (.ok r, s')) :
    ∃ base s₁ hr, s.make plan.base.call = (.ok base, s₁) ∧
      s₁.HoldsBoth ⟨base, base⟩ ⟨plan.base.tree, plan.base.tree⟩ ∧
      ((kernel : Kernel K (StateM (Store K))).perform ⟨base, base⟩ plan.further).run.run s₁ = (.ok hr, s') ∧
      hr.current = r := by
  rw [Kernel.execute_eq_perform] at h
  obtain ⟨base, s₁, hmake, h⟩ := exists_of_run_bind h
  rw [run_kernel_make] at hmake
  obtain ⟨solid, hmade, hbase⟩ := exists_of_make_eq_ok hmake
  obtain rfl := (made_base.1 hmade).2
  rw [map_eq_pure_bind] at h
  obtain ⟨hr, s₂, hrun, hcurrent⟩ := exists_of_run_bind h
  cases hcurrent
  exact ⟨base, s₁, hr, hmake, ⟨hbase, hbase⟩, hrun, rfl⟩

private theorem holds_of_execute {s s' : Store K} (hn : Function.Injective s.names) {plan : Plan K} {r : SolidRef}
    (h : ((kernel : Kernel K (StateM (Store K))).execute plan).run.run s = (.ok r, s')) : s'.Holds r plan.tree := by
  obtain ⟨base, s₁, hr, hmake, hbase, hrun, rfl⟩ := exists_perform_of_execute h
  exact (holds_perform (names_of_make hmake ▸ hn) hbase hrun).1

/-- The handle that a build answers stands for the solid of the plan. -/
theorem holds_of_build {s s' : Store K} (hn : Function.Injective s.names) {spec : SolidSpec K} {r : SolidRef}
    (h : ((kernel : Kernel K (StateM (Store K))).build spec).run.run s = (.ok r, s')) :
    ∃ plan, Plan.ofSpec spec = .ok plan ∧ s'.Holds r plan.tree := by
  rw [Kernel.build] at h
  cases hp : Plan.ofSpec spec with
  | error e =>
    rw [hp] at h
    cases h
  | ok plan =>
    rw [hp] at h
    exact ⟨plan, rfl, holds_of_execute hn (run_of_run_adapt h)⟩

/-- A plan with proper parameters is carried out, or fails at a cut that leaves too little. -/
theorem build_cases {s : Store K} (hn : Function.Injective s.names) {spec : SolidSpec K} {plan : Plan K}
    (hp : Plan.ofSpec spec = .ok plan) (hsteps : ∀ step ∈ plan.steps, step.IsProper) :
    (∃ r s', ((kernel : Kernel K (StateM (Store K))).build spec).run.run s = (.ok r, s')) ∨
      ∃ pre post, plan.further = pre ++ .subtract :: post ∧
        (BuildStep.subtract.tree (Held.perform ⟨plan.base.tree, plan.base.tree⟩ pre)).volume s.config.samples ≤
          s.config.emptyVolume ∧
        ∃ reason s', ((kernel : Kernel K (StateM (Store K))).build spec).run.run s =
          (.error (.kernel spec.id (.booleanFailed reason)), s') := by
  rw [Plan.steps, List.forall_mem_cons] at hsteps
  have hmake : s.make plan.base.call = (.ok (s.insert plan.base.tree).1, (s.insert plan.base.tree).2) := by
    rw [make_eq, made_base.2 ⟨hsteps.1, rfl⟩]
  have hbase : (s.insert plan.base.tree).2.HoldsBoth ⟨(s.insert plan.base.tree).1, (s.insert plan.base.tree).1⟩
      ⟨plan.base.tree, plan.base.tree⟩ := ⟨holds_insert_self s _, holds_insert_self s _⟩
  have hn' : Function.Injective (s.insert plan.base.tree).2.names := hn
  rw [Kernel.build, hp]
  simp only [ExceptT.run_adapt, StateT.run_map, Kernel.execute_eq_perform, run_bind, run_kernel_make, hmake,
    ExceptT.run_map]
  rcases perform_cases hsteps.2 hn' hbase with ⟨hr, s', hrun⟩ | ⟨pre, post, hsplit, hv, reason, s', hrun⟩
  · rw [hrun]
    exact .inl ⟨hr.current, s', rfl⟩
  · rw [hrun]
    exact .inr ⟨pre, post, hsplit, hv, reason, s', rfl⟩

/-! ### Settings -/

private theorem config_of_perform {steps : List (BuildStep K)} {s s' : Store K} {h : Held SolidRef}
    {answer : Except KernelError (Held SolidRef)}
    (hrun : ((kernel : Kernel K (StateM (Store K))).perform h steps).run.run s = (answer, s')) :
    s'.config = s.config := by
  induction steps generalizing s h with
  | nil =>
    cases hrun
    rfl
  | cons step steps ih =>
    rw [Kernel.perform_cons, run_bind, run_kernel_make] at hrun
    rcases hmake : s.make (step.call h) with ⟨e | r, s₁⟩
    · rw [hmake] at hrun
      cases hrun
      exact config_of_make hmake
    · rw [hmake] at hrun
      exact (ih hrun).trans (config_of_make hmake)

/-- A build leaves the settings of the kernel as they are. -/
theorem config_of_build {s s' : Store K} {spec : SolidSpec K} {answer : Except (BuildError K) SolidRef}
    (h : ((kernel : Kernel K (StateM (Store K))).build spec).run.run s = (answer, s')) : s'.config = s.config := by
  rw [Kernel.build] at h
  cases hp : Plan.ofSpec spec with
  | error e =>
    rw [hp] at h
    cases h
    rfl
  | ok plan =>
    rw [hp] at h
    simp only [ExceptT.run_adapt, StateT.run_map, Kernel.execute_eq_perform, run_bind, run_kernel_make] at h
    rcases hmake : s.make plan.base.call with ⟨e | base, s₁⟩
    · rw [hmake] at h
      cases h
      exact config_of_make hmake
    · rw [hmake] at h
      simp only [ExceptT.run_map, StateT.run_map] at h
      cases h
      exact (config_of_perform rfl).trans (config_of_make hmake)

/-! ### Cuts on the way -/

/-- In a script that comes to its end every cut leaves enough. -/
theorem not_volume_le_of_perform {pre post : List (BuildStep K)} {s s' : Store K} (hn : Function.Injective s.names)
    {hr hr' : Held SolidRef} {ht : Held (Solid K)} (hh : s.HoldsBoth hr ht)
    (h : ((kernel : Kernel K (StateM (Store K))).perform hr (pre ++ .subtract :: post)).run.run s = (.ok hr', s')) :
    ¬ (BuildStep.subtract.tree (ht.perform pre)).volume s.config.samples ≤ s.config.emptyVolume := by
  rw [Kernel.perform_append] at h
  obtain ⟨hm, s₁, hpre, h⟩ := exists_of_run_bind h
  rw [Kernel.perform_cons] at h
  obtain ⟨r, s₂, hmake, -⟩ := exists_of_run_bind h
  rw [run_kernel_make] at hmake
  obtain ⟨solid, hmade, -⟩ := exists_of_make_eq_ok hmake
  obtain ⟨a, b, ha, hb, hv, -⟩ := made_subtract.1 hmade
  have hheld := holds_perform hn hh hpre
  obtain rfl := Except.ok.inj (hheld.1.find_eq.symm.trans ha)
  obtain rfl := Except.ok.inj (hheld.2.find_eq.symm.trans hb)
  rwa [config_of_perform hpre] at hv

/-- In a build that succeeds every cut leaves enough. -/
theorem not_volume_le_of_build {s s' : Store K} (hn : Function.Injective s.names) {spec : SolidSpec K} {plan : Plan K}
    (hp : Plan.ofSpec spec = .ok plan) {r : SolidRef}
    (h : ((kernel : Kernel K (StateM (Store K))).build spec).run.run s = (.ok r, s')) {pre post : List (BuildStep K)}
    (hsplit : plan.further = pre ++ .subtract :: post) :
    ¬ (BuildStep.subtract.tree (Held.perform ⟨plan.base.tree, plan.base.tree⟩ pre)).volume s.config.samples ≤
      s.config.emptyVolume := by
  rw [Kernel.build, hp] at h
  obtain ⟨base, s₁, hr, hmake, hbase, hrun, -⟩ := exists_perform_of_execute (run_of_run_adapt h)
  rw [hsplit] at hrun
  rw [← config_of_make hmake]
  exact not_volume_le_of_perform (names_of_make hmake ▸ hn) hbase hrun

/-! ### Names -/

/-- A supply in which the name number `n` has `n` letters. -/
def unaryNames (n : Nat) : SolidId := ⟨.ofList (List.replicate n 'n')⟩

theorem unaryNames_injective : Function.Injective unaryNames := by
  intro n m h
  have := String.ofList_injective (congrArg SolidId.name h)
  simpa using congrArg List.length this

end Store

end SolidDrawing
