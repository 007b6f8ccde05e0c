import SolidDrawing.Proofs.FloatOrder
import SolidDrawing.Proofs.Spans
import SolidDrawing.Proofs.Tree

/-!
# Normal forms of spans of floats

Nothing is computed for a union or a difference of spans: ends are compared, and the larger one of two is taken. So they
are exact on floats as well. `Spans.onLine` takes spans of floats to the intervals of their values, and merging and
cutting may be done before or after (`onLine_mergeFrom`, `onLine_cut`). With that normal forms and coverings come from
those of real intervals, and the spans of every solid are normal, however its coordinates were rounded
(`Solid.normalForms_floats`).
-/

namespace SolidDrawing

/-- The interval between the values of the ends. -/
noncomputable def Span.onLine (s : Span Float) : Span ℝ := ⟨floatValue s.lo, floatValue s.hi⟩

namespace Spans

/-- The intervals between the values of the ends. -/
noncomputable def onLine (spans : Spans Float) : Spans ℝ := spans.map Span.onLine

/-- All ends are numbers. -/
def HasNumbers (spans : Spans Float) : Prop := ∀ s ∈ spans, IsNumber s.lo ∧ IsNumber s.hi

section

variable {a b l : Spans Float} {c s : Span Float} {lo hi : Float}

theorem hasNumbers_cons : HasNumbers (s :: l) ↔ (IsNumber s.lo ∧ IsNumber s.hi) ∧ HasNumbers l := List.forall_mem_cons

theorem hasNumbers_append : HasNumbers (a ++ b) ↔ HasNumbers a ∧ HasNumbers b := List.forall_mem_append

theorem HasNumbers.of_lt (h : ∀ s ∈ l, s.lo < s.hi) : l.HasNumbers := fun s hs => isNumber_of_lt (h s hs)

theorem onLine_cons : onLine (s :: l) = s.onLine :: l.onLine := rfl

theorem onLine_append : onLine (a ++ b) = a.onLine ++ b.onLine := List.map_append

/-! ### Normal forms -/

theorem proper_onLine (hl : l.HasNumbers) : l.onLine.Proper ↔ ∀ s ∈ l, s.lo < s.hi := by
  simp only [Proper, onLine, List.forall_mem_map]
  exact forall₂_congr fun s hs => (floatValue_lt_iff (hl s hs).1 (hl s hs).2).symm

/-- Spans of floats are normal exactly if the intervals of their values are. -/
theorem isNormal_onLine (hl : l.HasNumbers) : l.onLine.IsNormal ↔ l.IsNormal := by
  induction l with
  | nil => simp [onLine]
  | cons s l ih =>
    obtain ⟨hs, hl⟩ := hasNumbers_cons.1 hl
    rw [onLine_cons, isNormal_cons, isNormal_cons, ih hl]
    refine and_congr (floatValue_lt_iff hs.1 hs.2).symm (and_congr_left' ?_)
    simp only [onLine, List.forall_mem_map]
    exact forall₂_congr fun t ht => (floatValue_lt_iff hs.2 (hl t ht).1).symm

/-! ### Merging -/

theorem onLine_mergeFrom (hc : IsNumber c.lo ∧ IsNumber c.hi) (hl : l.HasNumbers) :
    (mergeFrom c l).HasNumbers ∧ (mergeFrom c l).onLine = mergeFrom c.onLine l.onLine := by
  induction l generalizing c with
  | nil => exact ⟨by simpa [mergeFrom, HasNumbers] using hc, rfl⟩
  | cons s l ih =>
    obtain ⟨hs, hl⟩ := hasNumbers_cons.1 hl
    have htouch : s.lo ≤ c.hi ↔ s.onLine.lo ≤ c.onLine.hi := floatValue_le_iff hs.1 hc.2
    rw [onLine_cons, mergeFrom, mergeFrom]
    by_cases h : s.lo ≤ c.hi
    · rw [if_pos h, if_pos (htouch.1 h)]
      obtain ⟨hnumbers, hline⟩ := ih (c := ⟨c.lo, Scalar.larger c.hi s.hi⟩) ⟨hc.1, hc.2.larger hs.2⟩ hl
      refine ⟨hnumbers, hline.trans ?_⟩
      rw [Span.onLine, floatValue_larger hc.2 hs.2]
      rfl
    · rw [if_neg h, if_neg (htouch.not.1 h)]
      obtain ⟨hnumbers, hline⟩ := ih hs hl
      exact ⟨hasNumbers_cons.2 ⟨hc, hnumbers⟩, congrArg (c.onLine :: ·) hline⟩

theorem onLine_merge (hl : l.HasNumbers) : (merge l).HasNumbers ∧ (merge l).onLine = merge l.onLine := by
  cases l with
  | nil => exact ⟨hl, rfl⟩
  | cons s l =>
    obtain ⟨hs, hl⟩ := hasNumbers_cons.1 hl
    exact onLine_mergeFrom hs hl

/-- The list that is merged for a union, in the order of the values. -/
theorem exists_merge_union (ha : a.HasNumbers) (hb : b.HasNumbers) :
    ∃ l : Spans Float, l.Perm (a ++ b) ∧ l.HasNumbers ∧ l.onLine.Ordered ∧ union a b = merge l := by
  have hperm := List.mergeSort_perm (a ++ b) fun s t => Scalar.orderLe s.lo t.lo
  have hnumbers : HasNumbers ((a ++ b).mergeSort fun s t => Scalar.orderLe s.lo t.lo) := fun s hs =>
    hasNumbers_append.2 ⟨ha, hb⟩ s (hperm.mem_iff.1 hs)
  have hsorted := @List.pairwise_mergeSort _ (fun s t : Span Float => Scalar.orderLe s.lo t.lo)
    (fun r s t h₁ h₂ => by
      simp only [Scalar.orderLe, decide_eq_true_eq] at *
      exact UInt64.le_trans h₁ h₂)
    (fun s t => by
      simp only [Scalar.orderLe, Bool.or_eq_true, decide_eq_true_eq]
      exact UInt64.le_total ..) (a ++ b)
  refine ⟨_, hperm, hnumbers, ?_, rfl⟩
  rw [Ordered, onLine, List.pairwise_map]
  exact hsorted.imp_of_mem fun hs ht h => floatValue_le_of_orderLe (hnumbers _ hs).1 (hnumbers _ ht).1 h

/-! ### Cutting -/

theorem onLine_toSpans (hs : IsNumber s.lo ∧ IsNumber s.hi) :
    s.toSpans.HasNumbers ∧ s.toSpans.onLine = s.onLine.toSpans := by
  have hlt : s.lo < s.hi ↔ s.onLine.lo < s.onLine.hi := floatValue_lt_iff hs.1 hs.2
  unfold Span.toSpans
  by_cases h : s.lo < s.hi
  · rw [if_pos h, if_pos (hlt.1 h)]
    exact ⟨by simpa [HasNumbers] using hs, rfl⟩
  · rw [if_neg h, if_neg (hlt.not.1 h)]
    exact ⟨by simp [HasNumbers], rfl⟩

theorem onLine_cut (hlo : IsNumber lo) (hhi : IsNumber hi) (hl : l.HasNumbers) :
    (cut lo hi l).HasNumbers ∧ (cut lo hi l).onLine = cut (floatValue lo) (floatValue hi) l.onLine := by
  induction l generalizing lo with
  | nil => exact onLine_toSpans (s := ⟨lo, hi⟩) ⟨hlo, hhi⟩
  | cons c l ih =>
    obtain ⟨hc, hl⟩ := hasNumbers_cons.1 hl
    have hoff : c.hi ≤ lo ∨ hi ≤ c.lo ↔ c.onLine.hi ≤ floatValue lo ∨ floatValue hi ≤ c.onLine.lo :=
      or_congr (floatValue_le_iff hc.2 hlo) (floatValue_le_iff hhi hc.1)
    obtain ⟨hkept, hkeptLine⟩ := onLine_toSpans (s := ⟨lo, c.lo⟩) ⟨hlo, hc.1⟩
    have hnext : IsNumber (Scalar.larger lo c.hi) := hlo.larger hc.2
    have hend : hi ≤ Scalar.larger lo c.hi ↔ floatValue hi ≤ Scalar.larger (floatValue lo) c.onLine.hi := by
      rw [floatValue_le_iff hhi hnext, floatValue_larger hlo hc.2]
      rfl
    rw [onLine_cons, cut, cut]
    by_cases h : c.hi ≤ lo ∨ hi ≤ c.lo
    · rw [if_pos h, if_pos (hoff.1 h)]
      exact ih hlo hl
    · rw [if_neg h, if_neg (hoff.not.1 h)]
      by_cases h' : hi ≤ Scalar.larger lo c.hi
      · rw [if_pos h', if_pos (hend.1 h')]
        exact ⟨hkept, hkeptLine⟩
      · rw [if_neg h', if_neg (hend.not.1 h')]
        obtain ⟨hrest, hrestLine⟩ := ih hnext hl
        refine ⟨hasNumbers_append.2 ⟨hkept, hrest⟩, ?_⟩
        rw [onLine_append, hrestLine, floatValue_larger hlo hc.2]
        exact congrArg (· ++ _) hkeptLine

theorem onLine_difference (ha : a.HasNumbers) (hb : b.HasNumbers) :
    (difference a b).HasNumbers ∧ (difference a b).onLine = difference a.onLine b.onLine := by
  induction a with
  | nil => exact ⟨ha, rfl⟩
  | cons s a ih =>
    obtain ⟨hs, ha⟩ := hasNumbers_cons.1 ha
    obtain ⟨hcut, hcutLine⟩ := onLine_cut hs.1 hs.2 hb
    obtain ⟨hrest, hrestLine⟩ := ih ha
    have heq : difference (s :: a) b = cut s.lo s.hi b ++ difference a b := List.flatMap_cons
    rw [heq]
    refine ⟨hasNumbers_append.2 ⟨hcut, hrest⟩, ?_⟩
    rw [onLine_append, hcutLine, hrestLine]
    rfl

end

/-! ### Unions and differences of floats -/

section

variable {a b : Spans Float}

theorem union_floats (ha : ∀ s ∈ a, s.lo < s.hi) (hb : ∀ s ∈ b, s.lo < s.hi) :
    (union a b).IsNormal ∧ ∀ z : ℝ, (union a b).onLine.Covers z ↔ a.onLine.Covers z ∨ b.onLine.Covers z := by
  obtain ⟨l, hperm, hnumbers, hordered, heq⟩ := exists_merge_union (.of_lt ha) (.of_lt hb)
  obtain ⟨hmerged, hline⟩ := onLine_merge hnumbers
  have hproper : l.onLine.Proper := (proper_onLine hnumbers).2 fun s hs =>
    List.forall_mem_append.2 ⟨ha, hb⟩ s (hperm.mem_iff.1 hs)
  rw [heq]
  constructor
  · rw [← isNormal_onLine hmerged, hline]
    exact merge_isNormal hordered hproper
  · intro z
    have hlists : l.onLine.Perm (a.onLine ++ b.onLine) := onLine_append ▸ hperm.map Span.onLine
    rw [hline, covers_merge hordered hproper, covers_of_perm hlists, covers_append]

theorem difference_floats (ha : a.IsNormal) (hb : b.IsNormal) : (difference a b).IsNormal ∧
    ∀ z : ℝ, ¬ b.onLine.IsEnd z → ((difference a b).onLine.Covers z ↔ a.onLine.Covers z ∧ ¬ b.onLine.Covers z) := by
  have hna : a.HasNumbers := .of_lt ha.1
  have hnb : b.HasNumbers := .of_lt hb.1
  obtain ⟨hnumbers, hline⟩ := onLine_difference hna hnb
  have ha' := (isNormal_onLine hna).2 ha
  have hb' := (isNormal_onLine hnb).2 hb
  constructor
  · rw [← isNormal_onLine hnumbers, hline]
    exact difference_isNormal ha' hb'.proper
  · intro z hz
    rw [hline]
    exact covers_difference ha'.proper hb' hz

end

end Spans

namespace Solid

theorem isNormal_cuboidSpans {K : Type} [Scalar K] (box : Box K) (x y : K) : (cuboidSpans box x y).IsNormal := by
  unfold cuboidSpans
  split
  · exact Span.isNormal_toSpans _
  · exact Spans.isNormal_nil

theorem isNormal_cylinderSpans {K : Type} [Scalar K] (plane : Plane) (center : Vec3 K) (radius halfLength x y : K) :
    (cylinderSpans plane center radius halfLength x y).IsNormal := by
  unfold cylinderSpans
  cases plane <;> dsimp only <;> split <;> first | exact Span.isNormal_toSpans _ | exact Spans.isNormal_nil

theorem isNormal_spansFrom_floats {x y : Float} {parts : List (Solid Float)} {spans : Spans Float} (h : spans.IsNormal)
    (hparts : ∀ part ∈ parts, (part.spansAt x y).IsNormal) : (spansFrom x y spans parts).IsNormal := by
  induction parts generalizing spans with
  | nil => simpa using h
  | cons part rest ih =>
    obtain ⟨hpart, hrest⟩ := List.forall_mem_cons.1 hparts
    rw [spansFrom_cons]
    exact ih (Spans.union_floats h.1 hpart.1).1 hrest

theorem isNormal_spansAt_floats (s : Solid Float) (x y : Float) : (s.spansAt x y).IsNormal := by
  induction s with
  | cuboid box =>
    rw [spansAt_cuboid]
    exact isNormal_cuboidSpans box x y
  | cylinder plane center radius halfLength =>
    rw [spansAt_cylinder]
    exact isNormal_cylinderSpans plane center radius halfLength x y
  | union parts ih =>
    rw [spansAt_union]
    exact isNormal_spansFrom_floats Spans.isNormal_nil ih
  | difference target tool iht ihu =>
    rw [spansAt_difference]
    exact (Spans.difference_floats iht ihu).1

/-- Of intervals that are not empty, `Spans.union` makes normal ones that cover what they cover. Of normal ones
`Spans.difference` makes normal ones again, and what is not an end of what is taken away is covered exactly if it was
covered and is not taken away. So the spans of a solid are normal. -/
theorem normalForms_floats :
    (∀ a b : Spans Float, (∀ s ∈ a, s.lo < s.hi) → (∀ s ∈ b, s.lo < s.hi) → (Spans.union a b).IsNormal ∧
        ∀ z : ℝ, (Spans.union a b).onLine.Covers z ↔ a.onLine.Covers z ∨ b.onLine.Covers z) ∧
      (∀ a b : Spans Float, a.IsNormal → b.IsNormal → (Spans.difference a b).IsNormal ∧
        ∀ z : ℝ, ¬ b.onLine.IsEnd z →
          ((Spans.difference a b).onLine.Covers z ↔ a.onLine.Covers z ∧ ¬ b.onLine.Covers z)) ∧
      ∀ (s : Solid Float) (x y : Float), (s.spansAt x y).IsNormal :=
  ⟨fun _ _ => Spans.union_floats, fun _ _ => Spans.difference_floats, isNormal_spansAt_floats⟩

/-- Intervals that touch, out of order, and what is cut at both sides of an interval. -/
theorem normalForms_floats_touching :
    (Spans.union [⟨2, 4⟩, ⟨0, 1⟩] [(⟨1, 3⟩ : Span Float)]).IsNormal ∧
      (Spans.difference [(⟨0, 4⟩ : Span Float)] [⟨-1, 0.1⟩, ⟨1, 2⟩, ⟨3, 5⟩]).IsNormal ∧
      ((difference (cuboid ⟨⟨0, 0, 0⟩, ⟨4, 4, 4⟩⟩) (cuboid ⟨⟨1, 1, 1⟩, ⟨2, 2, 2⟩⟩)).spansAt 1.5 1.5 :
        Spans Float).IsNormal := by
  obtain ⟨hunion, hdifference, hspans⟩ := normalForms_floats
  have hwhole : Spans.IsNormal [(⟨0, 4⟩ : Span Float)] := by
    unfold Spans.IsNormal
    decide +kernel
  have hcuts : Spans.IsNormal [(⟨-1, 0.1⟩ : Span Float), ⟨1, 2⟩, ⟨3, 5⟩] := by
    unfold Spans.IsNormal
    decide +kernel
  exact ⟨(hunion _ _ (by decide +kernel) (by decide +kernel)).1, (hdifference _ _ hwhole hcuts).1, hspans _ _ _⟩

end Solid

end SolidDrawing
