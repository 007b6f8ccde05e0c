import SolidDrawing.Proofs.Runs
import SolidDrawing.Proofs.Script

/-!
# The calls of a build

A build is watched through `Kernel.traced`, for a kernel of which nothing is known: it has any state, answers any
handles and fails where it likes. The calls follow the script of the plan (`Follows`), and what a script is followed
by is described in `Plan.IsTrace`: which calls are made, which handles they are given, and where they stop. Without a
plan there are no calls. The main statement is `Kernel.exists_trace_of_build`.
-/

namespace SolidDrawing

/-- A call that makes a solid, with its answer. -/
abbrev Event (K : Type) := KernelCall K × Except KernelError SolidRef

variable {K : Type}

/-! ### Handles in a list of events -/

/-- The event takes material away. -/
def Event.isCut (ev : Event K) : Bool := ev.1.step.isCut

/-- The handle that the last of the events was answered by. -/
def latest? (evs : List (Event K)) : Option SolidRef := evs.getLast?.bind fun ev => ev.2.toOption

/-- The handle that the base call, the first of the events, or the latest cut was answered by. -/
def current? (evs : List (Event K)) : Option SolidRef := latest? (evs.take 1 ++ (evs.drop 1).filter Event.isCut)

/-- What the calls of a plan look like, in order and with their answers, up to the result. -/
structure Plan.IsTrace [Scalar K] (plan : Plan K) (evs : List (Event K)) (result : Except KernelError SolidRef) :
    Prop where
  /-- The calls are those of the plan, as far as they go. -/
  steps : evs.map (fun ev => ev.1.step) <+: plan.steps
  /-- A cut is made in what there is so far, with the solid made by the call just before. -/
  cut : ∀ pre target tool answer post, evs = pre ++ (.subtract target tool, answer) :: post →
    current? pre = some target ∧ latest? pre = some tool
  /-- What is moved is the solid made by the call just before. -/
  move : ∀ pre solid offset answer post, evs = pre ++ (.translate solid offset, answer) :: post →
    latest? pre = some solid
  /-- The first call that fails is the last one, and its error is the result. -/
  stop : ∀ pre call e post, evs = pre ++ (call, .error e) :: post → post = [] ∧ result = .error e
  /-- There is no other error. -/
  failed : ∀ e, result = .error e → ∃ call, evs.getLast? = some (call, .error e)
  /-- With a solid as the result all calls of the plan have been made, and the solid is what there is. -/
  finished : ∀ r, result = .ok r → evs.map (fun ev => ev.1.step) = plan.steps ∧ current? evs = some r ∧
    evs.countP Event.isCut = plan.cutCount

/-! ### Following a script -/

/-- The events in which a script is performed, and the result. -/
inductive Follows : Held SolidRef → List (BuildStep K) → List (Event K) → Except KernelError (Held SolidRef) → Prop
  | done (h : Held SolidRef) : Follows h [] [] (.ok h)
  | failed (h : Held SolidRef) (step : BuildStep K) (rest : List (BuildStep K)) (e : KernelError) :
    Follows h (step :: rest) [(step.call h, .error e)] (.error e)
  | made {h : Held SolidRef} {step : BuildStep K} {rest : List (BuildStep K)} {r : SolidRef} {evs : List (Event K)}
    {result : Except KernelError (Held SolidRef)} (next : Follows (h.after step r) rest evs result) :
    Follows h (step :: rest) ((step.call h, .ok r) :: evs) result

/-- The handles that are held are those of the events so far. -/
def Held.IsOf (h : Held SolidRef) (pre : List (Event K)) : Prop :=
  pre ≠ [] ∧ current? pre = some h.current ∧ latest? pre = some h.latest

theorem latest?_append_singleton (pre : List (Event K)) (call : KernelCall K) (r : SolidRef) :
    latest? (pre ++ [(call, .ok r)]) = some r := by
  simp [latest?, Except.toOption]

theorem Held.isOf_singleton (call : KernelCall K) (r : SolidRef) : Held.IsOf ⟨r, r⟩ [(call, .ok r)] := by
  simp [IsOf, current?, latest?, Except.toOption]

theorem Held.IsOf.after {h : Held SolidRef} {pre : List (Event K)} (hpre : h.IsOf pre) (step : BuildStep K)
    (r : SolidRef) : (h.after step r).IsOf (pre ++ [(step.call h, .ok r)]) := by
  obtain ⟨hne, hcur, -⟩ := hpre
  refine ⟨by simp, ?_, latest?_append_singleton ..⟩
  -- the first event stands for the base, whether it cuts or not
  obtain ⟨ev, evs, rfl⟩ := List.exists_cons_of_ne_nil hne
  simp only [current?, List.take_succ_cons, List.take_zero, List.drop_succ_cons, List.drop_zero, List.cons_append,
    List.filter_append, List.nil_append] at hcur ⊢
  cases hs : step.isCut with
  | true =>
    have hlast : [((step.call h, .ok r) : Event K)].filter Event.isCut = [(step.call h, .ok r)] := by
      simp [Event.isCut, hs]
    rw [hlast, ← List.cons_append, latest?_append_singleton]
    simp [Held.after, hs]
  | false => simp [Event.isCut, hs, Held.after, hcur]

namespace Follows

variable {h : Held SolidRef} {steps : List (BuildStep K)} {evs : List (Event K)}
  {result : Except KernelError (Held SolidRef)}

theorem steps_isPrefix (hf : Follows h steps evs result) : evs.map (fun ev => ev.1.step) <+: steps := by
  induction hf with
  | done h => exact List.nil_prefix
  | failed h step rest e => simp
  | made next ih => simpa using ih

/-- The handles of every call are those held when it is made. -/
theorem call_eq (hf : Follows h steps evs result) {pre : List (Event K)} (hpre : h.IsOf pre) {mid post : List (Event K)}
    {ev : Event K} (hev : evs = mid ++ ev :: post) :
    ∃ h' step, Held.IsOf h' (pre ++ mid) ∧ ev.1 = BuildStep.call h' step := by
  induction hf generalizing pre mid with
  | done h => simp at hev
  | failed h step rest e =>
    obtain ⟨rfl, hev⟩ : mid = [] ∧ _ := by
      cases mid with
      | nil => exact ⟨rfl, hev⟩
      | cons ev' mid => simp at hev
    obtain ⟨rfl, -⟩ := List.cons.inj hev
    exact ⟨h, step, by simpa using hpre, rfl⟩
  | @made h step rest r evs result next ih =>
    cases mid with
    | nil =>
      obtain ⟨rfl, -⟩ := List.cons.inj hev
      exact ⟨h, step, by simpa using hpre, rfl⟩
    | cons ev' mid =>
      obtain ⟨rfl, htail⟩ := List.cons.inj hev
      simpa using ih (hpre.after step r) htail

theorem eq_nil_of_error (hf : Follows h steps evs result) {pre post : List (Event K)} {call : KernelCall K}
    {e : KernelError} (hev : evs = pre ++ (call, .error e) :: post) : post = [] ∧ result = .error e := by
  induction hf generalizing pre with
  | done h => simp at hev
  | failed h step rest e' =>
    cases pre with
    | nil => simp_all
    | cons ev' pre => simp at hev
  | made next ih =>
    cases pre with
    | nil => simp at hev
    | cons ev' pre => exact ih (List.cons.inj hev).2

theorem getLast?_of_error (hf : Follows h steps evs result) {e : KernelError} (he : result = .error e) :
    ∃ call, evs.getLast? = some (call, .error e) := by
  induction hf with
  | done h => cases he
  | failed h step rest e' =>
    cases he
    exact ⟨_, rfl⟩
  | made next ih =>
    obtain ⟨call, hlast⟩ := ih he
    exact ⟨call, by rw [List.getLast?_cons, hlast]; rfl⟩

/-- A script that comes to its end has made all its calls, and what is held in the end comes from them. -/
theorem of_ok (hf : Follows h steps evs result) {h' : Held SolidRef} (hr : result = .ok h') {pre : List (Event K)}
    (hpre : h.IsOf pre) : evs.map (fun ev => ev.1.step) = steps ∧ h'.IsOf (pre ++ evs) := by
  induction hf generalizing pre with
  | done h =>
    cases hr
    exact ⟨rfl, by simpa using hpre⟩
  | failed h step rest e => cases hr
  | @made h step rest r evs result next ih =>
    obtain ⟨hsteps, hof⟩ := ih hr (hpre.after step r)
    exact ⟨by simpa using hsteps, by simpa using hof⟩

end Follows

/-! ### From scripts to plans -/

private theorem countP_flatMap_eq_length {α : Type} {f : α → List (BuildStep K)}
    (hf : ∀ a, (f a).countP BuildStep.isCut = 1) (as : List α) :
    (as.flatMap f).countP BuildStep.isCut = as.length := by
  induction as with
  | nil => rfl
  | cons a as ih => simp [hf, ih, Nat.add_comm]

private theorem eq_of_call_eq_subtract {h : Held SolidRef} {step : BuildStep K} {target tool : SolidRef}
    (heq : step.call h = .subtract target tool) : h.current = target ∧ h.latest = tool := by
  cases step <;> simp_all [BuildStep.call]

private theorem eq_of_call_eq_translate {h : Held SolidRef} {step : BuildStep K} {solid : SolidRef} {offset : Vec3 K}
    (heq : step.call h = .translate solid offset) : h.latest = solid := by
  cases step <;> simp_all [BuildStep.call]

section

variable [Scalar K]

private theorem countP_steps (plan : Plan K) : plan.steps.countP BuildStep.isCut = plan.cutCount := by
  have hcuts := countP_flatMap_eq_length (f := CutBox.steps) (fun c => rfl) plan.cutBoxes
  have hholes := countP_flatMap_eq_length (f := ThroughHole.steps) (fun h => rfl) plan.throughHoles
  rw [Plan.steps, Plan.further, Plan.cutCount]
  cases plan.base with
  | box b => simp [Base.steps, Base.call, KernelCall.step, BuildStep.isCut, hcuts, hholes]
  | sketch profile holes length =>
    simp only [Base.steps, Base.call, KernelCall.step, List.countP_cons, List.countP_append, hcuts, hholes]
    rw [countP_flatMap_eq_length (fun _ => rfl)]
    simp [BuildStep.isCut]

private theorem base_call_ne_subtract (base : Base K) (target tool : SolidRef) :
    base.call ≠ .subtract target tool := by
  cases base <;> simp [Base.call]

private theorem base_call_ne_translate (base : Base K) (solid : SolidRef) (offset : Vec3 K) :
    base.call ≠ .translate solid offset := by
  cases base <;> simp [Base.call]

/-- The base cannot be made. -/
private theorem isTrace_of_error (plan : Plan K) (e : KernelError) :
    plan.IsTrace [(plan.base.call, .error e)] (.error e) := by
  -- there is nothing in front of the only event
  have hpre : ∀ {pre post : List (Event K)} {ev : Event K},
      [(plan.base.call, .error e)] = pre ++ ev :: post → pre = [] ∧ ev = (plan.base.call, .error e) ∧ post = [] := by
    intro pre post ev h
    cases pre with
    | nil => simp_all
    | cons ev' pre => simp at h
  constructor
  case steps => simp [Plan.steps]
  case cut =>
    intro pre target tool answer post h
    exact (base_call_ne_subtract _ _ _ (congrArg Prod.fst (hpre h).2.1).symm).elim
  case move =>
    intro pre solid offset answer post h
    exact (base_call_ne_translate _ _ _ (congrArg Prod.fst (hpre h).2.1).symm).elim
  case stop =>
    intro pre call e' post h
    obtain ⟨-, hev, hpost⟩ := hpre h
    cases hev
    exact ⟨hpost, rfl⟩
  case failed =>
    intro e' h
    cases h
    exact ⟨_, rfl⟩
  case finished =>
    intro r h
    cases h

/-- The base is made and the script followed. -/
private theorem isTrace_of_follows {plan : Plan K} {r : SolidRef} {evs : List (Event K)}
    {result : Except KernelError (Held SolidRef)} (hf : Follows ⟨r, r⟩ plan.further evs result) :
    plan.IsTrace ((plan.base.call, .ok r) :: evs) (result.map Held.current) := by
  have hfirst := Held.isOf_singleton plan.base.call r
  constructor
  case steps => simpa [Plan.steps] using hf.steps_isPrefix
  case cut =>
    intro pre target tool answer post h
    cases pre with
    | nil => exact (base_call_ne_subtract _ _ _ (congrArg Prod.fst (List.cons.inj h).1)).elim
    | cons ev pre =>
      obtain ⟨rfl, htail⟩ := List.cons.inj h
      obtain ⟨h', step, ⟨-, hcur, hlat⟩, heq⟩ := hf.call_eq hfirst htail
      obtain ⟨rfl, rfl⟩ := eq_of_call_eq_subtract heq.symm
      exact ⟨hcur, hlat⟩
  case move =>
    intro pre solid offset answer post h
    cases pre with
    | nil => exact (base_call_ne_translate _ _ _ (congrArg Prod.fst (List.cons.inj h).1)).elim
    | cons ev pre =>
      obtain ⟨rfl, htail⟩ := List.cons.inj h
      obtain ⟨h', step, ⟨-, -, hlat⟩, heq⟩ := hf.call_eq hfirst htail
      obtain rfl := eq_of_call_eq_translate heq.symm
      exact hlat
  case stop =>
    intro pre call e post h
    cases pre with
    | nil => simp at h
    | cons ev pre =>
      obtain ⟨hpost, hres⟩ := hf.eq_nil_of_error (List.cons.inj h).2
      exact ⟨hpost, by rw [hres]; rfl⟩
  case failed =>
    intro e h
    cases hres : result with
    | ok h' => simp [hres, Except.map] at h
    | error e' =>
      obtain ⟨call, hlast⟩ := hf.getLast?_of_error hres
      refine ⟨call, ?_⟩
      obtain rfl : e' = e := by simpa [hres, Except.map] using h
      rw [List.getLast?_cons, hlast]
      rfl
  case finished =>
    intro r' h
    cases hres : result with
    | error e' => simp [hres, Except.map] at h
    | ok h' =>
      obtain rfl : h'.current = r' := by simpa [hres, Except.map] using h
      obtain ⟨hsteps, -, hcur, -⟩ := hf.of_ok hres hfirst
      have hall : ((plan.base.call, .ok r) :: evs).map (fun ev : Event K => ev.1.step) = plan.steps := by
        rw [List.map_cons, hsteps, Plan.steps]
      refine ⟨hall, hcur, ?_⟩
      rw [← countP_steps, ← hall, List.countP_map]
      rfl

end

/-! ### Watching a kernel -/

/-- Events as a log, the latest one first. -/
def Event.log (evs : List (Event K)) : List (KernelEvent K) := (evs.map fun ev => .made ev.1 ev.2).reverse

namespace Kernel

variable {σ : Type} (k : Kernel K (StateM σ))

/-- A call that is watched is answered as it would be, and put into the log. -/
private theorem run_make_traced {call : KernelCall K} {s s' : σ} {answer : Except KernelError SolidRef}
    (h : (k.make call).run.run s = (answer, s')) (log : List (KernelEvent K)) :
    ((k.traced.make call).run.run log).run s = ((answer, .made call answer :: log), s') := by
  have hrun : ((k.traced.make call).run.run log).run s =
      ((((k.make call).run.run s).1, .made call ((k.make call).run.run s).1 :: log), ((k.make call).run.run s).2) := by
    cases call <;> rfl
  rw [hrun, h]

/-- A script is followed, whatever the kernel does, and it makes no difference that the kernel is watched. -/
private theorem exists_follows (steps : List (BuildStep K)) (h : Held SolidRef) (log : List (KernelEvent K)) (s : σ) :
    ∃ evs result s', (k.perform h steps).run.run s = (result, s') ∧
      ((k.traced.perform h steps).run.run log).run s = ((result, Event.log evs ++ log), s') ∧
      Follows h steps evs result := by
  induction steps generalizing h log s with
  | nil => exact ⟨[], .ok h, s, rfl, rfl, .done h⟩
  | cons step steps ih =>
    rcases hmake : (k.make (step.call h)).run.run s with ⟨e | r, s₁⟩
    · refine ⟨[(step.call h, .error e)], .error e, s₁, ?_, ?_, .failed h step steps e⟩
      · rw [perform_cons, run_bind, hmake]
      · rw [perform_cons, run_bind_log, k.run_make_traced hmake]
        rfl
    · obtain ⟨evs, result, s', hrun, htraced, hf⟩ :=
        ih (h.after step r) (.made (step.call h) (.ok r) :: log) s₁
      refine ⟨(step.call h, .ok r) :: evs, result, s', ?_, ?_, hf.made⟩
      · rw [perform_cons, run_bind, hmake]
        exact hrun
      · rw [perform_cons, run_bind_log, k.run_make_traced hmake]
        simp [htraced, Event.log]

variable [Scalar K]

private theorem exists_trace_of_execute (plan : Plan K) (log : List (KernelEvent K)) (s : σ) :
    ∃ evs result s', (k.execute plan).run.run s = (result, s') ∧
      ((k.traced.execute plan).run.run log).run s = ((result, Event.log evs ++ log), s') ∧
      plan.IsTrace evs result := by
  rcases hmake : (k.make plan.base.call).run.run s with ⟨e | r, s₁⟩
  · refine ⟨[(plan.base.call, .error e)], .error e, s₁, ?_, ?_, isTrace_of_error plan e⟩
    · rw [execute_eq_perform, run_bind, hmake]
    · rw [execute_eq_perform, run_bind_log, k.run_make_traced hmake]
      rfl
  · obtain ⟨evs, result, s', hrun, htraced, hf⟩ :=
      k.exists_follows plan.further ⟨r, r⟩ (.made plan.base.call (.ok r) :: log) s₁
    refine ⟨(plan.base.call, .ok r) :: evs, result.map Held.current, s', ?_, ?_, isTrace_of_follows hf⟩
    · rw [execute_eq_perform, run_bind, hmake]
      simp only [ExceptT.run_map, StateT.run_map, hrun]
      rfl
    · rw [execute_eq_perform, run_bind_log, k.run_make_traced hmake]
      simp only [ExceptT.run_map, StateT.run_map, htraced, Event.log, List.map_cons, List.reverse_cons,
        List.append_assoc, List.singleton_append]
      rfl

/-- A description without a plan reaches no kernel. Otherwise the calls of a build are those of the plan up to the
first failure, with the handles that the plan asks for. -/
theorem exists_trace_of_build (spec : SolidSpec K) (log : List (KernelEvent K)) (s : σ) :
    match Plan.ofSpec spec with
    | .error e => ((k.traced.build spec).run.run log).run s = ((.error (.plan e), log), s)
    | .ok plan => ∃ evs result s', plan.IsTrace evs result ∧
        ((k.traced.build spec).run.run log).run s =
          ((result.mapError (.kernel spec.id), Event.log evs ++ log), s') ∧
        (k.build spec).run.run s = (result.mapError (.kernel spec.id), s') := by
  split
  · rename_i e h
    rw [build, h]
    rfl
  · rename_i plan h
    obtain ⟨evs, result, s', hrun, htraced, htrace⟩ := k.exists_trace_of_execute plan log s
    refine ⟨evs, result, s', htrace, ?_, ?_⟩
    · rw [build, h, ExceptT.run_adapt, StateT.run_map, StateT.run_map, htraced]
      rfl
    · rw [build, h, ExceptT.run_adapt, StateT.run_map, hrun]
      rfl

end Kernel

end SolidDrawing
