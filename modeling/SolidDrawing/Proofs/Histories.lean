import Mathlib.Logic.Function.Basic

/-!
# Histories

Calls are made one after the other on something that has a state, and each of them leaves an event. What is kept by
each call is kept by all of them (`history_keeps`). `Since` and `Followed` say of the events so far that something has
happened, and what has happened after it; `Drawn` says that the names in them are among the first of a supply, and
`Allotted` that each of them was given to one owner.
-/

namespace SolidDrawing

variable {σ γ ε : Type} (step : σ → γ → ε × σ)

/-- The events of calls that are made in order, and the state behind them. -/
def history (s : σ) : List γ → List ε × σ
  | [] => ([], s)
  | call :: calls =>
    let next := history (step s call).2 calls
    ((step s call).1 :: next.1, next.2)

@[simp] theorem history_nil (s : σ) : history step s [] = ([], s) := rfl

@[simp] theorem history_cons (s : σ) (call : γ) (calls : List γ) : history step s (call :: calls) =
    ((step s call).1 :: (history step (step s call).2 calls).1, (history step (step s call).2 calls).2) := rfl

variable {step}

/-- What is kept by each call is kept by a history. -/
theorem history_keeps {Inv : List ε → σ → Prop}
    (keeps : ∀ evs s call, Inv evs s → Inv (evs ++ [(step s call).1]) (step s call).2) {evs : List ε} {s : σ}
    (h : Inv evs s) (calls : List γ) : Inv (evs ++ (history step s calls).1) (history step s calls).2 := by
  induction calls generalizing evs s with
  | nil => simpa using h
  | cons call calls ih => simpa using ih (keeps evs s call h)

/-- What holds at first, and is kept by each call, holds behind every history. -/
theorem history_induction {Inv : List ε → σ → Prop} {s : σ} (start : Inv [] s)
    (keeps : ∀ evs s call, Inv evs s → Inv (evs ++ [(step s call).1]) (step s call).2) (calls : List γ) :
    Inv (history step s calls).1 (history step s calls).2 := by
  simpa using history_keeps keeps start calls

/-! ### Events and what came after them -/

/-- There was an event with `P`, and all events since then have `Q`. -/
def Since (P Q : ε → Prop) (evs : List ε) : Prop :=
  ∃ pre ev post, evs = pre ++ ev :: post ∧ P ev ∧ ∀ later ∈ post, Q later

/-- There was an event with `P`, and a later one with `Q`. -/
def Followed (P Q : ε → Prop) (evs : List ε) : Prop :=
  ∃ pre ev post, evs = pre ++ ev :: post ∧ P ev ∧ ∃ later ∈ post, Q later

/-- An event in a longer history is the latest one, or one of those before. -/
private theorem exists_split_append_singleton {R : ε → List ε → Prop} {evs : List ε} {ev : ε} :
    (∃ pre first post, evs ++ [ev] = pre ++ first :: post ∧ R first post) ↔
      R ev [] ∨ ∃ pre first post, evs = pre ++ first :: post ∧ R first (post ++ [ev]) := by
  constructor
  · rintro ⟨pre, first, post, heq, h⟩
    rcases List.eq_nil_or_concat post with rfl | ⟨post, last, rfl⟩
    · obtain ⟨-, hlast⟩ := List.append_inj' heq rfl
      exact .inl (List.singleton_inj.1 hlast ▸ h)
    · have hsplit : evs ++ [ev] = (pre ++ first :: post) ++ [last] := by simpa using heq
      obtain ⟨rfl, hlast⟩ := List.append_inj' hsplit rfl
      obtain rfl := List.singleton_inj.1 hlast
      exact .inr ⟨pre, first, post, rfl, by simpa using h⟩
  · rintro (h | ⟨pre, first, post, rfl, h⟩)
    · exact ⟨evs, ev, [], rfl, h⟩
    · exact ⟨pre, first, post ++ [ev], by simp, h⟩

variable {P Q : ε → Prop} {evs : List ε} {ev : ε}

@[simp] theorem not_since_nil : ¬ Since P Q [] := by simp [Since]

@[simp] theorem not_followed_nil : ¬ Followed P Q [] := by simp [Followed]

theorem Since.exists_mem (h : Since P Q evs) : ∃ ev ∈ evs, P ev := by
  obtain ⟨pre, ev, post, rfl, hev, -⟩ := h
  exact ⟨ev, by simp, hev⟩

theorem Followed.exists_mem (h : Followed P Q evs) : ∃ ev ∈ evs, P ev := by
  obtain ⟨pre, ev, post, rfl, hev, -⟩ := h
  exact ⟨ev, by simp, hev⟩

theorem since_append_singleton : Since P Q (evs ++ [ev]) ↔ P ev ∨ Q ev ∧ Since P Q evs := by
  rw [Since, exists_split_append_singleton (R := fun first post => P first ∧ ∀ later ∈ post, Q later)]
  simp only [Since, List.forall_mem_append, List.forall_mem_singleton, List.not_mem_nil, false_imp_iff, implies_true,
    and_true, ← exists_and_left]
  refine or_congr_right (exists_congr fun pre => exists_congr fun first => exists_congr fun post => ?_)
  exact ⟨fun ⟨h, hP, hQ, hev⟩ => ⟨hev, h, hP, hQ⟩, fun ⟨hev, h, hP, hQ⟩ => ⟨h, hP, hQ, hev⟩⟩

theorem followed_append_singleton :
    Followed P Q (evs ++ [ev]) ↔ Followed P Q evs ∨ Q ev ∧ ∃ first ∈ evs, P first := by
  rw [Followed, exists_split_append_singleton (R := fun first post => P first ∧ ∃ later ∈ post, Q later)]
  constructor
  · rintro (⟨-, later, hlater, -⟩ | ⟨pre, first, post, rfl, hP, later, hlater, hQ⟩)
    · cases hlater
    · rcases List.mem_append.1 hlater with h | h
      · exact .inl ⟨pre, first, post, rfl, hP, later, h, hQ⟩
      · obtain rfl := List.mem_singleton.1 h
        exact .inr ⟨hQ, first, by simp, hP⟩
  · rintro (⟨pre, first, post, rfl, hP, later, hlater, hQ⟩ | ⟨hQ, first, hfirst, hP⟩)
    · exact .inr ⟨pre, first, post, rfl, hP, later, List.mem_append_left _ hlater, hQ⟩
    · obtain ⟨pre, post, rfl⟩ := List.append_of_mem hfirst
      exact .inr ⟨pre, first, post, rfl, hP, ev, by simp, hQ⟩

/-! ### Names in events -/

/-- Every name that an event has to do with is among the first `n` of the supply. -/
def Drawn {α : Type} (names : Nat → α) (n : Nat) (P : α → ε → Prop) (evs : List ε) : Prop :=
  ∀ ev ∈ evs, ∀ a, P a ev → ∃ i < n, names i = a

namespace Drawn

variable {α : Type} {names : Nat → α} {n m : Nat} {P : α → ε → Prop}

theorem nil : Drawn names n P [] := by simp [Drawn]

/-- The next name is not in the events so far. -/
theorem fresh (h : Drawn names n P evs) (hn : Function.Injective names) : ∀ ev ∈ evs, ¬ P (names n) ev := by
  intro ev hev hp
  obtain ⟨i, hlt, heq⟩ := h ev hev _ hp
  exact Nat.ne_of_lt hlt (hn heq)

theorem append_singleton (h : Drawn names n P evs) (hle : n ≤ m) (hev : ∀ a, P a ev → ∃ i < m, names i = a) :
    Drawn names m P (evs ++ [ev]) := by
  refine List.forall_mem_append.2 ⟨fun ev' hmem a hp => ?_, List.forall_mem_singleton.2 hev⟩
  obtain ⟨i, hlt, heq⟩ := h ev' hmem a hp
  exact ⟨i, Nat.lt_of_lt_of_le hlt hle, heq⟩

/-- An event without names uses up none. -/
theorem append_of_not (h : Drawn names n P evs) (hev : ∀ a, ¬ P a ev) : Drawn names n P (evs ++ [ev]) :=
  h.append_singleton (Nat.le_refl n) fun a ha => absurd ha (hev a)

end Drawn

/-- Every name that an event gives to an owner is among the first `n` of the supply, and has no other owner. -/
structure Allotted {κ α : Type} (names : Nat → α) (n : Nat) (Gave : κ → α → ε → Prop) (evs : List ε) : Prop where
  drawn : Drawn names n (fun a ev => ∃ owner, Gave owner a ev) evs
  unique : ∀ ev ∈ evs, ∀ ev' ∈ evs, ∀ owner owner' a, Gave owner a ev → Gave owner' a ev' → owner = owner'

namespace Allotted

variable {κ α : Type} {names : Nat → α} {n : Nat} {Gave : κ → α → ε → Prop}

theorem nil : Allotted names n Gave [] := ⟨.nil, by simp⟩

theorem append_of_not (h : Allotted names n Gave evs) (hev : ∀ owner a, ¬ Gave owner a ev) :
    Allotted names n Gave (evs ++ [ev]) where
  drawn := h.drawn.append_of_not fun a ⟨owner, ha⟩ => hev owner a ha
  unique := by
    have hmem : ∀ later ∈ evs ++ [ev], ∀ owner a, Gave owner a later → later ∈ evs := by
      intro later hlater owner a ha
      rcases List.mem_append.1 hlater with hlater | hlater
      · exact hlater
      · exact absurd (List.mem_singleton.1 hlater ▸ ha) (hev owner a)
    intro first hfirst second hsecond owner owner' a ha ha'
    exact h.unique first (hmem first hfirst owner a ha) second (hmem second hsecond owner' a ha') owner owner' a ha ha'

/-- The next name is given to its first owner. -/
theorem append_next (h : Allotted names n Gave evs) (hn : Function.Injective names) {owner : κ}
    (hev : ∀ owner' a, Gave owner' a ev → owner' = owner ∧ a = names n) :
    Allotted names (n + 1) Gave (evs ++ [ev]) where
  drawn := h.drawn.append_singleton (Nat.le_succ n) fun a ⟨owner', ha⟩ =>
    ⟨n, Nat.lt_succ_self n, (hev owner' a ha).2.symm⟩
  unique := by
    have hold : ∀ later ∈ evs, ∀ owner', ¬ Gave owner' (names n) later :=
      fun later hlater owner' ha => h.drawn.fresh hn later hlater ⟨owner', ha⟩
    intro first hfirst second hsecond owner₁ owner₂ a h₁ h₂
    rw [List.mem_append, List.mem_singleton] at hfirst hsecond
    rcases hfirst with hfirst | rfl <;> rcases hsecond with hsecond | rfl
    · exact h.unique first hfirst second hsecond owner₁ owner₂ a h₁ h₂
    · obtain ⟨-, rfl⟩ := hev owner₂ a h₂
      exact absurd h₁ (hold first hfirst owner₁)
    · obtain ⟨-, rfl⟩ := hev owner₁ a h₁
      exact absurd h₂ (hold second hsecond owner₂)
    · exact (hev owner₁ a h₁).1.trans (hev owner₂ a h₂).1.symm

end Allotted

end SolidDrawing
