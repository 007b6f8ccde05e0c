/-!
# Runs of programs that can fail

A program acts on a state, and ends with a result or with an error. A failure ends the run, a success is where it goes
on; and it is the same when a log is kept beside the state. `Beneath` relates a program to the same program with
a state on top that it leaves alone.
-/

namespace SolidDrawing

variable {ε σ ρ α β : Type}

theorem run_bind (x : ExceptT ε (StateM σ) α) (f : α → ExceptT ε (StateM σ) β) (s : σ) :
    (x >>= f).run.run s =
      match x.run.run s with
      | (.ok a, s') => (f a).run.run s'
      | (.error e, s') => (.error e, s') := by
  simp only [ExceptT.run_bind, StateT.run_bind]
  rcases x.run.run s with ⟨e | a, s'⟩
  · rfl
  · rfl

/-- A program that ends well goes through a result of its first part. -/
theorem exists_of_run_bind {x : ExceptT ε (StateM σ) α} {f : α → ExceptT ε (StateM σ) β} {s s' : σ} {b : β}
    (h : (x >>= f).run.run s = (.ok b, s')) :
    ∃ a s₁, x.run.run s = (.ok a, s₁) ∧ (f a).run.run s₁ = (.ok b, s') := by
  rw [run_bind] at h
  rcases hx : x.run.run s with ⟨e | a, s₁⟩
  · rw [hx] at h
    cases h
  · rw [hx] at h
    exact ⟨a, s₁, rfl, h⟩

theorem run_of_run_adapt {ε' : Type} {x : ExceptT ε (StateM σ) α} {f : ε → ε'} {s s' : σ} {a : α}
    (h : (x.adapt f).run.run s = (.ok a, s')) : x.run.run s = (.ok a, s') := by
  rw [ExceptT.run_adapt, StateT.run_map] at h
  rcases hx : x.run.run s with ⟨e | a', s₁⟩
  · rw [hx] at h
    cases h
  · rw [hx] at h
    cases h
    rfl

theorem run_bind_log (x : ExceptT ε (StateT ρ (StateM σ)) α) (f : α → ExceptT ε (StateT ρ (StateM σ)) β) (log : ρ)
    (s : σ) : ((x >>= f).run.run log).run s =
      match (x.run.run log).run s with
      | ((.ok a, log'), s') => ((f a).run.run log').run s'
      | ((.error e, log'), s') => ((.error e, log'), s') := by
  simp only [ExceptT.run_bind, StateT.run_bind]
  rcases (x.run.run log).run s with ⟨⟨e | a, log'⟩, s'⟩
  · rfl
  · rfl

theorem run_map_of_run {x : ExceptT ε (StateM σ) α} {s : σ} {result : Except ε α × σ} (h : x.run.run s = result)
    (f : α → β) : (f <$> x).run.run s = (result.1.map f, result.2) := by
  rw [ExceptT.run_map, StateT.run_map, h]
  rfl

/-! ### A state on top of any monad -/

section

variable {ε' : Type} {m : Type → Type} [Monad m] [LawfulMonad m]

theorem run_bind_of_ok {x : ExceptT ε (StateT σ m) α} {s s' : σ} {a : α} (h : x.run.run s = pure (.ok a, s'))
    (f : α → ExceptT ε (StateT σ m) β) : (x >>= f).run.run s = (f a).run.run s' := by
  rw [ExceptT.run_bind, StateT.run_bind, h, pure_bind]

theorem run_bind_of_error {x : ExceptT ε (StateT σ m) α} {s s' : σ} {e : ε} (h : x.run.run s = pure (.error e, s'))
    (f : α → ExceptT ε (StateT σ m) β) : (x >>= f).run.run s = pure (.error e, s') := by
  rw [ExceptT.run_bind, StateT.run_bind, h, pure_bind]
  rfl

theorem throw_bind (e : ε) (f : α → ExceptT ε m β) : throw e >>= f = throw e :=
  pure_bind (Except.error e) (ExceptT.bindCont f)

theorem run_adapt_of_eq {x : ExceptT ε (StateT σ m) α} {s s' : σ} {result : Except ε α}
    (h : x.run.run s = pure (result, s')) (f : ε → ε') :
    (x.adapt f).run.run s = pure (result.mapError f, s') := by
  rw [ExceptT.run_adapt, StateT.run_map, h, map_pure]

theorem adapt_pure (a : α) (g : ε → ε') : (pure a : ExceptT ε m α).adapt g = pure a := by
  refine ExceptT.ext ?_
  rw [ExceptT.run_adapt, ExceptT.run_pure, map_pure]
  rfl

theorem adapt_bind (x : ExceptT ε m α) (f : α → ExceptT ε m β) (g : ε → ε') :
    (x >>= f).adapt g = x.adapt g >>= fun a => (f a).adapt g := by
  refine ExceptT.ext ?_
  rw [ExceptT.run_adapt, ExceptT.run_bind, ExceptT.run_bind, ExceptT.run_adapt, map_bind, bind_map_left]
  refine bind_congr fun result => ?_
  cases result with
  | error e => exact map_pure _ _
  | ok a => exact (ExceptT.run_adapt _ _).symm

/-- The second program is the first one with a state on top, which is `s` and stays so. -/
def Beneath (s : σ) (x : ExceptT ε m α) (y : ExceptT ε (StateT σ m) α) : Prop :=
  y.run.run s = (fun result => (result, s)) <$> x.run

namespace Beneath

variable {s : σ} {x : ExceptT ε m α} {y : ExceptT ε (StateT σ m) α}

theorem pure (a : α) : Beneath s (pure a : ExceptT ε m α) (pure a) := by
  simp [Beneath]

theorem throw (e : ε) : Beneath s (throw e : ExceptT ε m α) (throw e) := by
  simp [Beneath]

theorem bind {f : α → ExceptT ε m β} {g : α → ExceptT ε (StateT σ m) β} (h : Beneath s x y)
    (hf : ∀ a, Beneath s (f a) (g a)) : Beneath s (x >>= f) (y >>= g) := by
  unfold Beneath at h
  rw [Beneath, ExceptT.run_bind, StateT.run_bind, h, ExceptT.run_bind, bind_map_left, map_bind]
  refine bind_congr fun result => ?_
  cases result with
  | error e => simp
  | ok a => exact hf a

theorem adapt (h : Beneath s x y) (f : ε → ε') : Beneath s (x.adapt f) (y.adapt f) := by
  unfold Beneath at h
  rw [Beneath, ExceptT.run_adapt, StateT.run_map, h, ExceptT.run_adapt]
  simp

theorem lift (action : m (Except ε α)) : Beneath s (ExceptT.mk action) (ExceptT.mk (StateT.lift action)) :=
  (StateT.run_lift action s).trans (map_eq_pure_bind _ _).symm

end Beneath

end

section

variable {ε' : Type} {m : Type → Type} [Monad m]

/-- The program is done with the state on top, and needs nothing else. -/
def OnTop (x : ExceptT ε (StateT σ m) α) : Prop :=
  ∀ s, ∃ result s', x.run.run s = Pure.pure (result, s')

namespace OnTop

variable {x : ExceptT ε (StateT σ m) α}

theorem pure (a : α) : OnTop (pure a : ExceptT ε (StateT σ m) α) := fun s => ⟨.ok a, s, by simp⟩

theorem throw (e : ε) : OnTop (throw e : ExceptT ε (StateT σ m) α) := fun s => ⟨.error e, s, by simp⟩

variable [LawfulMonad m]

theorem bind {f : α → ExceptT ε (StateT σ m) β} (h : OnTop x) (hf : ∀ a, OnTop (f a)) : OnTop (x >>= f) := by
  intro s
  obtain ⟨result, s', hx⟩ := h s
  cases result with
  | ok a =>
    obtain ⟨result, s'', hfa⟩ := hf a s'
    exact ⟨result, s'', by rw [run_bind_of_ok hx, hfa]⟩
  | error e => exact ⟨.error e, s', run_bind_of_error hx f⟩

theorem map (h : OnTop x) (f : α → β) : OnTop (f <$> x) := by
  rw [map_eq_pure_bind]
  exact h.bind fun a => .pure (f a)

theorem adapt (h : OnTop x) (f : ε → ε') : OnTop (x.adapt f) := by
  intro s
  obtain ⟨result, s', hx⟩ := h s
  exact ⟨_, s', run_adapt_of_eq hx f⟩

end OnTop

end

end SolidDrawing
