import SolidDrawing.Proofs.Histories
import SolidDrawing.Proofs.StoreRuns

/-!
# Histories of a store of solids

Any calls are made one after the other on a kernel of solid trees that was new at first: with handles that it gave out
or not, with parameters that it takes or not. As long as names do not repeat, `Store.Reflects` holds of the calls and
their answers: a handle keeps its solid until the kernel is shut down, and is unknown from then on; a call that fails
changes nothing; the number of solids is the number of calls that made one since the kernel was last shut down.
What calls make of solids that have it, all solids of the store have, whether names repeat or not
(`Store.solids_history`).
-/

namespace SolidDrawing

/-- A call to a kernel of solid trees. -/
inductive StoreCall (K : Type) where
  | make (call : KernelCall K)
  | measure (solid : SolidRef)
  | bounds (solid : SolidRef)
  | contains (solid : SolidRef) (point : Vec3 K)
  | shutdown

/-- What a call is answered by if it does not fail. -/
inductive StoreAnswer (K : Type) where
  | solid (r : SolidRef)
  | mass (properties : MassProperties K)
  | box (box : Box K)
  | inside (inside : Bool)
  | done

/-- A call with its answer. -/
abbrev StoreEvent (K : Type) := StoreCall K × Except KernelError (StoreAnswer K)

namespace StoreCall

variable {K : Type}

def isShutdown : StoreCall K → Bool
  | shutdown => true
  | _ => false

/-- The call asks for what a handle stands for, and makes nothing. -/
def Asks (r : SolidRef) : StoreCall K → Prop
  | measure solid => solid = r
  | bounds solid => solid = r
  | contains solid _ => solid = r
  | _ => False

/-- The call works on what a handle stands for. In a cut the target is looked up before the tool. -/
inductive Needs (s : Store K) (r : SolidRef) : StoreCall K → Prop
  | ask {call : StoreCall K} (h : call.Asks r) : Needs s r call
  | translate (offset : Vec3 K) : Needs s r (make (.translate r offset))
  | target (tool : SolidRef) : Needs s r (make (.subtract r tool))
  | tool {target : SolidRef} {solid : Solid K} (h : s.find target = .ok solid) : Needs s r (make (.subtract target r))

variable [Scalar K] [DecimalText K]

/-- Makes the call to the kernel over the store that the monad holds. -/
def perform : StoreCall K → ExceptT KernelError (StateM (Store K)) (StoreAnswer K)
  | make call => .solid <$> Store.kernel.make call
  | measure solid => .mass <$> Store.kernel.measure solid
  | bounds solid => .box <$> Store.kernel.bounds solid
  | contains solid point =>
    ExceptT.mk (modifyGet fun s : Store K => ((s.contains solid point).map .inside, s))
  | shutdown => do
    (Store.kernel : Kernel K (StateM (Store K))).shutdown
    return .done

end StoreCall

namespace StoreEvent

variable {K : Type}

/-- The call gave out the handle. -/
def Gave (r : SolidRef) (ev : StoreEvent K) : Prop := ∃ call, ev = (.make call, .ok (.solid r))

theorem eq_of_gave {r r' : SolidRef} {call : StoreCall K} (h : Gave r (call, .ok (.solid r'))) : r = r' := by
  obtain ⟨call', heq⟩ := h
  simpa using congrArg Prod.snd heq.symm

def isShutdown (ev : StoreEvent K) : Bool := ev.1.isShutdown

/-- The call made a solid. -/
def madeSolid : StoreEvent K → Bool
  | (.make _, .ok _) => true
  | _ => false

/-- The number of solids that were made since the last shutdown. -/
def solidsMade (evs : List (StoreEvent K)) : Nat := (evs.reverse.takeWhile fun ev => !ev.isShutdown).countP madeSolid

theorem solidsMade_append_singleton (evs : List (StoreEvent K)) (ev : StoreEvent K) : solidsMade (evs ++ [ev]) =
    if ev.isShutdown then 0 else solidsMade evs + if ev.madeSolid then 1 else 0 := by
  rw [solidsMade, List.reverse_append, List.reverse_singleton, List.singleton_append, List.takeWhile_cons]
  cases ev.isShutdown with
  | true => rfl
  | false => exact List.countP_cons

end StoreEvent

namespace Store

variable {K : Type} [Scalar K] [DecimalText K]

/-- One call, with the event that it leaves. -/
def step (s : Store K) (call : StoreCall K) : StoreEvent K × Store K :=
  ((call, (call.perform.run.run s).1), (call.perform.run.run s).2)

/-- What the events so far say about a store. -/
structure Reflects (evs : List (StoreEvent K)) (s : Store K) : Prop where
  /-- A handle that was given out is answered in the same way until the next shutdown. -/
  kept : ∀ r, Since (StoreEvent.Gave r) (fun ev => ev.isShutdown = false) evs → ∀ call : StoreCall K, call.Asks r →
    ∃ answer, (s.step call).1.2 = .ok answer ∧ ∀ calls : List (StoreCall K),
      (∀ call ∈ calls, call.isShutdown = false) → ((history step s calls).2.step call).1.2 = .ok answer
  /-- A call that fails changes nothing. -/
  unchanged : ∀ (call : StoreCall K) e, (s.step call).1.2 = .error e → (s.step call).2 = s
  /-- There are as many solids as were made since the last shutdown. -/
  count_eq : s.count = StoreEvent.solidsMade evs
  /-- A handle that was given out before a shutdown is unknown. -/
  released : ∀ r, Followed (StoreEvent.Gave r) (fun ev => ev.isShutdown = true) evs → ∀ call : StoreCall K,
    call.Needs s r → (s.step call).1.2 = .error (.unknownSolid r.id)

/-! ### One call -/

theorem run_kernel_measure (s : Store K) (r : SolidRef) :
    ((kernel : Kernel K (StateM (Store K))).measure r).run.run s = (s.measure r, s) := rfl

theorem run_kernel_bounds (s : Store K) (r : SolidRef) :
    ((kernel : Kernel K (StateM (Store K))).bounds r).run.run s = (s.bounds r, s) := rfl

theorem step_make (s : Store K) (call : KernelCall K) :
    s.step (.make call) = ((.make call, (s.make call).1.map .solid), (s.make call).2) := by
  rw [step, StoreCall.perform, run_map_of_run (run_kernel_make s call)]

theorem step_make_of_made {s : Store K} {call : KernelCall K} {solid : Solid K} (h : s.made call = .ok solid) :
    s.step (.make call) = ((.make call, .ok (.solid (s.insert solid).1)), (s.insert solid).2) := by
  rw [step_make, make_eq, h]
  rfl

theorem step_measure (s : Store K) (r : SolidRef) :
    s.step (.measure r) = ((.measure r, (s.measure r).map .mass), s) := by
  rw [step, StoreCall.perform, run_map_of_run (run_kernel_measure s r)]

theorem step_bounds (s : Store K) (r : SolidRef) :
    s.step (.bounds r) = ((.bounds r, (s.bounds r).map .box), s) := by
  rw [step, StoreCall.perform, run_map_of_run (run_kernel_bounds s r)]

theorem step_contains (s : Store K) (r : SolidRef) (p : Vec3 K) :
    s.step (.contains r p) = ((.contains r p, (s.contains r p).map .inside), s) := rfl

/-- All that a call can do to a store. -/
inductive Step (s : Store K) : StoreEvent K × Store K → Prop
  | made (call : KernelCall K) (solid : Solid K) :
    Step s ((.make call, .ok (.solid (s.insert solid).1)), (s.insert solid).2)
  | cleared : Step s ((.shutdown, .ok .done), s.clear)
  | same (ev : StoreEvent K) (running : ev.isShutdown = false) (idle : ev.madeSolid = false) : Step s (ev, s)

theorem step_cases (s : Store K) (call : StoreCall K) : Step s (s.step call) := by
  cases call with
  | make call =>
    rw [step_make, make_eq]
    cases s.made call with
    | ok solid => exact .made call solid
    | error e => exact .same _ rfl rfl
  | measure r => exact step_measure s r ▸ .same _ rfl rfl
  | bounds r => exact step_bounds s r ▸ .same _ rfl rfl
  | contains r p => exact step_contains s r p ▸ .same _ rfl rfl
  | shutdown => exact .cleared

theorem step_eq_of_error {s : Store K} {call : StoreCall K} {e : KernelError} (h : (s.step call).1.2 = .error e) :
    (s.step call).2 = s := by
  have hstep := s.step_cases call
  generalize s.step call = next at h hstep
  cases hstep with
  | made call solid => cases h
  | cleared => cases h
  | same ev => rfl

/-! ### Handles that are held -/

/-- A question is answered by what the handle stands for, however the store came about. -/
theorem exists_answer_of_asks {s : Store K} {r : SolidRef} {solid : Solid K} (hr : s.Holds r solid)
    {call : StoreCall K} (hcall : call.Asks r) : ∃ answer, ∀ s' : Store K, s'.config = s.config → s'.Holds r solid →
      (s'.step call).1.2 = .ok answer := by
  cases call with
  | make call => cases hcall
  | shutdown => cases hcall
  | measure r' =>
    obtain rfl : r' = r := hcall
    refine ⟨.mass ⟨solid.volume s.config.samples, solid.bounds⟩, fun s' hconfig hr' => ?_⟩
    rw [step_measure, measure, hr'.find_eq, hconfig]
    rfl
  | bounds r' =>
    obtain rfl : r' = r := hcall
    refine ⟨.box solid.bounds, fun s' _ hr' => ?_⟩
    rw [step_bounds, bounds, hr'.find_eq]
    rfl
  | contains r' p =>
    obtain rfl : r' = r := hcall
    refine ⟨.inside (solid.contains p), fun s' _ hr' => ?_⟩
    rw [step_contains, contains, hr'.find_eq]
    rfl

/-- A handle that is not held is unknown to all calls that need it. -/
theorem step_eq_of_needs {s : Store K} {r : SolidRef} (hr : s.find r = .error (.unknownSolid r.id))
    {call : StoreCall K} (hcall : call.Needs s r) : (s.step call).1.2 = .error (.unknownSolid r.id) := by
  have hmake {call : KernelCall K} (h : s.made call = .error (.unknownSolid r.id)) :
      (s.step (.make call)).1.2 = .error (.unknownSolid r.id) := by
    rw [step_make, make_eq, h]
    rfl
  cases hcall with
  | ask h =>
    cases call with
    | make call => cases h
    | shutdown => cases h
    | measure r' =>
      obtain rfl : r' = r := h
      rw [step_measure, measure, hr]
      rfl
    | bounds r' =>
      obtain rfl : r' = r := h
      rw [step_bounds, bounds, hr]
      rfl
    | contains r' p =>
      obtain rfl : r' = r := h
      rw [step_contains, contains, hr]
      rfl
  | translate offset =>
    refine hmake ?_
    rw [made, hr]
    rfl
  | target tool =>
    refine hmake ?_
    rw [made, hr]
    rfl
  | tool h =>
    refine hmake ?_
    rw [made, h, hr]
    rfl

theorem Holds.of_step {s : Store K} (hn : Function.Injective s.names) {r : SolidRef} {solid : Solid K}
    (hr : s.Holds r solid) {call : StoreCall K} (hcall : call.isShutdown = false) : (s.step call).2.Holds r solid := by
  have hevent : (s.step call).1.isShutdown = false := hcall
  have hstep := s.step_cases call
  generalize s.step call = next at hevent hstep
  cases hstep with
  | made call other => exact hr.insert hn other
  | cleared => cases hevent
  | same ev => exact hr

theorem names_step (s : Store K) (call : StoreCall K) : (s.step call).2.names = s.names := by
  have hstep := s.step_cases call
  generalize s.step call = next at hstep
  cases hstep <;> rfl

theorem config_step (s : Store K) (call : StoreCall K) : (s.step call).2.config = s.config := by
  have hstep := s.step_cases call
  generalize s.step call = next at hstep
  cases hstep <;> rfl

theorem config_history (s : Store K) (calls : List (StoreCall K)) : (history step s calls).2.config = s.config := by
  induction calls generalizing s with
  | nil => rfl
  | cons call calls ih => rw [history_cons, ih, config_step]

/-- A solid that is held behind a call was held before, or was made by it. -/
theorem mem_solids_step {s : Store K} {call : StoreCall K} {entry : SolidId × Solid K}
    (h : entry ∈ (s.step call).2.solids) : entry ∈ s.solids ∨ ∃ call, s.made call = .ok entry.2 := by
  cases call with
  | make call =>
    rw [step_make, make_eq] at h
    cases hm : s.made call with
    | error e =>
      rw [hm] at h
      exact .inl h
    | ok solid =>
      rw [hm] at h
      rcases List.mem_cons.1 h with rfl | h
      · exact .inr ⟨call, hm⟩
      · exact .inl h
  | shutdown => cases h
  | measure r =>
    rw [step_measure] at h
    exact .inl h
  | bounds r =>
    rw [step_bounds] at h
    exact .inl h
  | contains r p => exact .inl h

/-- What calls make of solids that have it, all solids behind a history have. -/
theorem solids_history {P : Solid K → Prop} (hmade : ∀ s : Store K, (∀ entry ∈ s.solids, P entry.2) →
      ∀ call solid, s.made call = .ok solid → P solid)
    (config : StoreConfig K) (names : Nat → SolidId) (calls : List (StoreCall K)) :
    ∀ entry ∈ (history step (empty config names) calls).2.solids, P entry.2 := by
  let Inv (_ : List (StoreEvent K)) (s : Store K) : Prop := ∀ entry ∈ s.solids, P entry.2
  have hempty : Inv [] (empty config names) := fun _ h => by cases h
  refine history_induction hempty (fun _ s call h entry hentry => ?_) calls
  rcases mem_solids_step hentry with hold | ⟨call, hnew⟩
  · exact h entry hold
  · exact hmade s h call _ hnew

/-- A handle keeps its solid until the next shutdown. -/
theorem Holds.of_history {s : Store K} (hn : Function.Injective s.names) {r : SolidRef} {solid : Solid K}
    (hr : s.Holds r solid) {calls : List (StoreCall K)} (hcalls : ∀ call ∈ calls, call.isShutdown = false) :
    (history step s calls).2.Holds r solid := by
  induction calls generalizing s with
  | nil => exact hr
  | cons call calls ih =>
    obtain ⟨hcall, hcalls⟩ := List.forall_mem_cons.1 hcalls
    exact ih (names_step s call ▸ hn) (hr.of_step hn hcall) hcalls

/-! ### Histories -/

/-- The events so far, as the names and the solids of a store show them. -/
structure Records (evs : List (StoreEvent K)) (s : Store K) : Prop where
  injective : Function.Injective s.names
  drawn : Drawn s.names s.drawn (fun id ev => ∃ r, StoreEvent.Gave r ev ∧ r.id = id) evs
  held : ∀ r, Since (StoreEvent.Gave r) (fun ev => ev.isShutdown = false) evs → ∃ solid, s.Holds r solid
  count_eq : s.count = StoreEvent.solidsMade evs
  lost : ∀ r, Followed (StoreEvent.Gave r) (fun ev => ev.isShutdown = true) evs →
    s.find r = .error (.unknownSolid r.id)

section

omit [Scalar K] [DecimalText K]

theorem records_empty (config : StoreConfig K) {names : Nat → SolidId} (hn : Function.Injective names) :
    Records [] (empty config names) where
  injective := hn
  drawn := .nil
  held := by simp
  count_eq := rfl
  lost := by simp

variable {evs : List (StoreEvent K)} {s : Store K}

theorem Records.made (h : Records evs s) (call : KernelCall K) (solid : Solid K) :
    Records (evs ++ [(.make call, .ok (.solid (s.insert solid).1))]) (s.insert solid).2 where
  injective := h.injective
  drawn := by
    refine h.drawn.append_singleton (Nat.le_succ _) ?_
    rintro _ ⟨r, hr, rfl⟩
    obtain rfl := StoreEvent.eq_of_gave hr
    exact ⟨s.drawn, Nat.lt_succ_self _, rfl⟩
  held := by
    intro r hr
    rcases since_append_singleton.1 hr with hr | ⟨-, hr⟩
    · obtain rfl := StoreEvent.eq_of_gave hr
      exact ⟨solid, holds_insert_self s solid⟩
    · obtain ⟨other, hother⟩ := h.held r hr
      exact ⟨other, hother.insert h.injective solid⟩
  count_eq := by
    rw [StoreEvent.solidsMade_append_singleton, ← h.count_eq]
    rfl
  lost := by
    intro r hr
    rcases followed_append_singleton.1 hr with hr | ⟨hr, -⟩
    · -- the name of the new solid was not drawn before, so it is not the one that was given up
      obtain ⟨ev, hev, hgave⟩ := hr.exists_mem
      rw [find_insert_of_ne s solid (ne_of_drawn h.injective (h.drawn ev hev r.id ⟨r, hgave, rfl⟩))]
      exact h.lost r hr
    · cases hr

theorem Records.cleared (h : Records evs s) : Records (evs ++ [(.shutdown, .ok .done)]) s.clear := by
  have hgave (r : SolidRef) : ¬ StoreEvent.Gave r ((.shutdown, .ok .done) : StoreEvent K) := by
    rintro ⟨call, heq⟩
    cases heq
  constructor
  case injective => exact h.injective
  case drawn => exact h.drawn.append_of_not fun _ ⟨r, hr, _⟩ => hgave r hr
  case held =>
    intro r hr
    rcases since_append_singleton.1 hr with hr | ⟨hr, -⟩
    · exact absurd hr (hgave r)
    · cases hr
  case count_eq =>
    rw [StoreEvent.solidsMade_append_singleton]
    rfl
  case lost =>
    intro r _
    exact find_clear s r

theorem Records.same (h : Records evs s) {ev : StoreEvent K} (running : ev.isShutdown = false)
    (idle : ev.madeSolid = false) : Records (evs ++ [ev]) s := by
  have hgave (r : SolidRef) : ¬ StoreEvent.Gave r ev := by
    rintro ⟨call, rfl⟩
    cases idle
  constructor
  case injective => exact h.injective
  case drawn => exact h.drawn.append_of_not fun _ ⟨r, hr, _⟩ => hgave r hr
  case held =>
    intro r hr
    rcases since_append_singleton.1 hr with hr | ⟨-, hr⟩
    · exact absurd hr (hgave r)
    · exact h.held r hr
  case count_eq => simp [StoreEvent.solidsMade_append_singleton, running, idle, h.count_eq]
  case lost =>
    intro r hr
    rcases followed_append_singleton.1 hr with hr | ⟨hr, -⟩
    · exact h.lost r hr
    · rw [running] at hr
      cases hr

end

theorem Records.step {evs : List (StoreEvent K)} {s : Store K} (h : Records evs s) (call : StoreCall K) :
    Records (evs ++ [(s.step call).1]) (s.step call).2 := by
  have hstep := s.step_cases call
  generalize s.step call = next at hstep
  cases hstep with
  | made call solid => exact h.made call solid
  | cleared => exact h.cleared
  | same ev running idle => exact h.same running idle

theorem records_history (config : StoreConfig K) {names : Nat → SolidId} (hn : Function.Injective names)
    (calls : List (StoreCall K)) :
    Records (history step (empty config names) calls).1 (history step (empty config names) calls).2 :=
  history_induction (records_empty config hn) (fun _ _ call h => h.step call) calls

theorem Records.reflects {evs : List (StoreEvent K)} {s : Store K} (h : Records evs s) : Reflects evs s where
  kept := by
    intro r hr call hcall
    obtain ⟨solid, hsolid⟩ := h.held r hr
    obtain ⟨answer, hanswer⟩ := exists_answer_of_asks hsolid hcall
    refine ⟨answer, hanswer s rfl hsolid, fun calls hcalls => ?_⟩
    exact hanswer _ (config_history s calls) (hsolid.of_history h.injective hcalls)
  unchanged := fun call e => step_eq_of_error
  count_eq := h.count_eq
  released := fun r hr call => step_eq_of_needs (h.lost r hr)

/-- Whatever calls are made to a new kernel of solid trees, its store reflects them and their answers. -/
theorem reflects_history (config : StoreConfig K) {names : Nat → SolidId} (hn : Function.Injective names)
    (calls : List (StoreCall K)) :
    Reflects (history step (empty config names) calls).1 (history step (empty config names) calls).2 :=
  (records_history config hn calls).reflects

/-- Two blocks, and a shutdown between them. -/
def twoBlocks : List (StoreCall Float) :=
  [.make (.createBox ⟨1, 1, 1⟩ .all), .shutdown, .make (.createBox ⟨2, 1, 1⟩ .all)]

theorem reflects_history_twoBlocks :
    let s := (history step (empty ⟨1, 0⟩ unaryNames) twoBlocks).2
    s.count = 1 ∧ (s.step (.measure ⟨unaryNames 0, kernelName⟩)).1.2 = .error (.unknownSolid (unaryNames 0)) ∧
      ∃ inside, (s.step (.contains ⟨unaryNames 1, kernelName⟩ ⟨1, 0, 0⟩)).1.2 = .ok inside := by
  have h := reflects_history ⟨1, 0⟩ unaryNames_injective twoBlocks
  have hevents : (history step (empty ⟨1, 0⟩ unaryNames) twoBlocks).1 =
      [(.make (.createBox ⟨1, 1, 1⟩ .all), .ok (.solid ⟨unaryNames 0, kernelName⟩)), (.shutdown, .ok .done),
        (.make (.createBox ⟨2, 1, 1⟩ .all), .ok (.solid ⟨unaryNames 1, kernelName⟩))] := rfl
  rw [hevents] at h
  refine ⟨h.count_eq, h.released _ ⟨[], _, _, rfl, ⟨_, rfl⟩, (.shutdown, .ok .done), by simp, rfl⟩ _ (.ask rfl), ?_⟩
  obtain ⟨answer, hanswer, -⟩ := h.kept ⟨unaryNames 1, kernelName⟩
    ⟨_ :: _ :: [], _, [], rfl, ⟨_, rfl⟩, by simp⟩ (.contains _ ⟨1, 0, 0⟩) rfl
  exact ⟨answer, hanswer⟩

end Store

end SolidDrawing
