import SolidDrawing.Proofs.Exact

/-!
# Normal forms of spans

With exact arithmetic `Spans.union` of lists of intervals that are not empty is normal and covers what either of them
covers, and `Spans.difference` of normal lists is normal. A value that is no end of an interval is covered by the
difference exactly when the first list covers it and the second does not; at an end it depends on the side. The ends
of the results are ends of the operands.
-/

namespace SolidDrawing

namespace Spans

variable {K : Type}

/-! ### Ends -/

/-- The value is an end of one of the intervals. -/
def IsEnd (spans : Spans K) (z : K) : Prop := ∃ s ∈ spans, z = s.lo ∨ z = s.hi

@[simp] theorem isEnd_nil (z : K) : ¬ IsEnd [] z := by simp [IsEnd]

@[simp] theorem isEnd_cons {s : Span K} {l : Spans K} {z : K} :
    IsEnd (s :: l) z ↔ (z = s.lo ∨ z = s.hi) ∨ IsEnd l z := by
  simp [IsEnd]

theorem isEnd_append {a b : Spans K} {z : K} : IsEnd (a ++ b) z ↔ a.IsEnd z ∨ b.IsEnd z := by
  simp [IsEnd, or_and_right, exists_or]

theorem isEnd_of_perm {a b : Spans K} (h : a.Perm b) {z : K} : a.IsEnd z ↔ b.IsEnd z := by
  simp only [IsEnd, h.mem_iff]

/-! ### Covering and normal forms of lists -/

variable [Scalar K]

@[simp] theorem covers_nil (z : K) : ¬ Covers [] z := by simp [Covers]

@[simp] theorem covers_cons {s : Span K} {l : Spans K} {z : K} : Covers (s :: l) z ↔ s.Covers z ∨ Covers l z := by
  simp [Covers]

theorem covers_append {a b : Spans K} {z : K} : Covers (a ++ b) z ↔ a.Covers z ∨ b.Covers z := by
  simp [Covers, or_and_right, exists_or]

theorem covers_flatMap {a : Spans K} {f : Span K → Spans K} {z : K} :
    Covers (a.flatMap f) z ↔ ∃ s ∈ a, (f s).Covers z := by
  simp only [Covers, List.mem_flatMap]
  constructor
  · rintro ⟨t, ⟨s, hs, ht⟩, hz⟩
    exact ⟨s, hs, t, ht, hz⟩
  · rintro ⟨s, hs, t, ht, hz⟩
    exact ⟨t, ⟨s, hs, ht⟩, hz⟩

theorem covers_of_perm {a b : Spans K} (h : a.Perm b) {z : K} : a.Covers z ↔ b.Covers z := by
  simp only [Covers, h.mem_iff]

@[simp] theorem isNormal_nil : IsNormal ([] : Spans K) := by simp [IsNormal]

theorem isNormal_cons {s : Span K} {l : Spans K} :
    IsNormal (s :: l) ↔ s.lo < s.hi ∧ (∀ t ∈ l, s.hi < t.lo) ∧ l.IsNormal := by
  simp only [IsNormal, List.forall_mem_cons, List.pairwise_cons]
  tauto

theorem isNormal_append {a b : Spans K} :
    IsNormal (a ++ b) ↔ a.IsNormal ∧ b.IsNormal ∧ ∀ s ∈ a, ∀ t ∈ b, s.hi < t.lo := by
  simp only [IsNormal, List.forall_mem_append, List.pairwise_append]
  tauto

end Spans

/-! ### One interval -/

theorem Span.mem_toSpans {s t : Span ℝ} : t ∈ s.toSpans ↔ t = s ∧ s.lo < s.hi := by
  unfold toSpans
  split <;> simp [*]

theorem Span.covers_toSpans {s : Span ℝ} {z : ℝ} : s.toSpans.Covers z ↔ s.lo < s.hi ∧ s.Covers z := by
  unfold toSpans
  split <;> simp [*]

theorem Span.isNormal_toSpans {K : Type} [Scalar K] (s : Span K) : s.toSpans.IsNormal := by
  unfold toSpans
  split <;> simp [Spans.isNormal_cons, *]

theorem Span.eq_lo_or_hi_of_isEnd {s : Span ℝ} {z : ℝ} (h : s.toSpans.IsEnd z) : z = s.lo ∨ z = s.hi := by
  unfold toSpans at h
  split at h
  · simpa using h
  · simp at h

namespace Spans

/-! ### Union -/

/-- The intervals are not empty. -/
def Proper (spans : Spans ℝ) : Prop := ∀ s ∈ spans, s.lo < s.hi

/-- The intervals come in the order of their lower ends. -/
def Ordered (spans : Spans ℝ) : Prop := spans.Pairwise fun s t => s.lo ≤ t.lo

private theorem proper_cons {s : Span ℝ} {l : Spans ℝ} : Proper (s :: l) ↔ s.lo < s.hi ∧ Proper l := by
  simp [Proper]

private theorem ordered_cons {s : Span ℝ} {l : Spans ℝ} :
    Ordered (s :: l) ↔ (∀ t ∈ l, s.lo ≤ t.lo) ∧ Ordered l := List.pairwise_cons

/-- An interval that touches the one before it, and is in order, may be joined to it. -/
private theorem ordered_join {c s : Span ℝ} {l : Spans ℝ} (h : Ordered (c :: s :: l)) (hi : ℝ) :
    Ordered (⟨c.lo, hi⟩ :: l) := by
  obtain ⟨hc, hs⟩ := ordered_cons.1 h
  exact ordered_cons.2 ⟨fun t ht => hc t (List.mem_cons_of_mem _ ht), (ordered_cons.1 hs).2⟩

private theorem lo_le_of_mem_mergeFrom {c t : Span ℝ} {l : Spans ℝ} (h : Ordered (c :: l))
    (ht : t ∈ mergeFrom c l) : c.lo ≤ t.lo := by
  induction l generalizing c with
  | nil => simp_all [mergeFrom]
  | cons s l ih =>
    unfold mergeFrom at ht
    split at ht
    · have hjoin := ih (ordered_join h _) ht
      exact hjoin
    · rcases List.mem_cons.1 ht with rfl | ht
      · exact le_rfl
      · have hcs := (ordered_cons.1 h).1 s (List.mem_cons_self ..)
        exact hcs.trans (ih (ordered_cons.1 h).2 ht)

private theorem mergeFrom_isNormal {c : Span ℝ} {l : Spans ℝ} (h : Ordered (c :: l)) (hp : Proper (c :: l)) :
    (mergeFrom c l).IsNormal := by
  induction l generalizing c with
  | nil => simpa [mergeFrom, isNormal_cons] using (proper_cons.1 hp).1
  | cons s l ih =>
    obtain ⟨hc, hs⟩ := proper_cons.1 hp
    unfold mergeFrom
    split
    · refine ih (ordered_join h _) (proper_cons.2 ⟨?_, (proper_cons.1 hs).2⟩)
      exact hc.trans_le (le_max_left _ _)
    · rename_i hlt
      -- what is still to come begins no earlier than `s`, and so behind `c`
      have htail := (ordered_cons.1 h).2
      refine isNormal_cons.2 ⟨hc, fun t ht => ?_, ih htail hs⟩
      exact (not_le.1 hlt).trans_le (lo_le_of_mem_mergeFrom htail ht)

/-- Two intervals that touch cover together what the interval around both covers. -/
private theorem covers_join {c s : Span ℝ} (hle : c.lo ≤ s.lo) (h : s.lo ≤ c.hi) {z : ℝ} :
    Span.Covers ⟨c.lo, max c.hi s.hi⟩ z ↔ c.Covers z ∨ s.Covers z := by
  simp only [Span.Covers, le_max_iff]
  constructor
  · rintro ⟨hlo, hhi | hhi⟩
    · exact .inl ⟨hlo, hhi⟩
    · rcases le_total z c.hi with hz | hz
      · exact .inl ⟨hlo, hz⟩
      · exact .inr ⟨h.trans hz, hhi⟩
  · rintro (⟨hlo, hhi⟩ | ⟨hlo, hhi⟩)
    · exact ⟨hlo, .inl hhi⟩
    · exact ⟨hle.trans hlo, .inr hhi⟩

private theorem covers_mergeFrom {c : Span ℝ} {l : Spans ℝ} (h : Ordered (c :: l)) (hp : Proper (c :: l)) {z : ℝ} :
    (mergeFrom c l).Covers z ↔ Covers (c :: l) z := by
  induction l generalizing c with
  | nil => simp [mergeFrom]
  | cons s l ih =>
    obtain ⟨hc, hs⟩ := proper_cons.1 hp
    have hle := (ordered_cons.1 h).1 s (List.mem_cons_self ..)
    unfold mergeFrom
    split
    · rename_i htouch
      have hpj : Proper (⟨c.lo, max c.hi s.hi⟩ :: l) :=
        proper_cons.2 ⟨hc.trans_le (le_max_left _ _), (proper_cons.1 hs).2⟩
      rw [Scalar.larger_real, ih (ordered_join h _) hpj, covers_cons, covers_join hle htouch]
      simp only [covers_cons, or_assoc]
    · rw [covers_cons, ih (ordered_cons.1 h).2 hs]
      simp only [covers_cons]

theorem merge_isNormal {l : Spans ℝ} (h : Ordered l) (hp : Proper l) : (merge l).IsNormal := by
  cases l with
  | nil => simp [merge]
  | cons s l => exact mergeFrom_isNormal h hp

theorem covers_merge {l : Spans ℝ} (h : Ordered l) (hp : Proper l) {z : ℝ} : (merge l).Covers z ↔ l.Covers z := by
  cases l with
  | nil => simp [merge]
  | cons s l => exact covers_mergeFrom h hp

private theorem isEnd_of_isEnd_mergeFrom {c : Span ℝ} {l : Spans ℝ} {z : ℝ} (hz : (mergeFrom c l).IsEnd z) :
    IsEnd (c :: l) z := by
  induction l generalizing c with
  | nil => simpa [mergeFrom] using hz
  | cons s l ih =>
    unfold mergeFrom at hz
    split at hz
    · have hz := ih hz
      rcases max_choice c.hi s.hi with hm | hm <;> simp only [isEnd_cons, Scalar.larger_real, hm] at hz ⊢ <;> tauto
    · rw [isEnd_cons] at hz ⊢
      exact hz.imp_right ih

/-- The sorted list that is merged for a union. -/
private theorem union_eq (a b : Spans ℝ) :
    ∃ l, l.Perm (a ++ b) ∧ Ordered l ∧ union a b = merge l := by
  refine ⟨_, List.mergeSort_perm _ _, ?_, rfl⟩
  have := @List.pairwise_mergeSort _ (fun s t : Span ℝ => Scalar.orderLe s.lo t.lo)
    (fun r s t h₁ h₂ => by
      simp only [Scalar.orderLe_real] at *
      exact h₁.trans h₂)
    (fun s t => by simpa using le_total s.lo t.lo) (a ++ b)
  exact this.imp Scalar.orderLe_real.1

private theorem proper_append_of_perm {a b l : Spans ℝ} (hl : l.Perm (a ++ b)) (ha : a.Proper) (hb : b.Proper) :
    l.Proper := by
  intro s hs
  rcases List.mem_append.1 (hl.mem_iff.1 hs) with h | h
  · exact ha s h
  · exact hb s h

theorem IsNormal.proper {a : Spans ℝ} (h : a.IsNormal) : a.Proper := h.1

theorem union_isNormal {a b : Spans ℝ} (ha : a.Proper) (hb : b.Proper) : (union a b).IsNormal := by
  obtain ⟨l, hperm, hord, heq⟩ := union_eq a b
  rw [heq]
  exact merge_isNormal hord (proper_append_of_perm hperm ha hb)

theorem covers_union {a b : Spans ℝ} (ha : a.Proper) (hb : b.Proper) {z : ℝ} :
    (union a b).Covers z ↔ a.Covers z ∨ b.Covers z := by
  obtain ⟨l, hperm, hord, heq⟩ := union_eq a b
  rw [heq, ← covers_append, ← covers_of_perm hperm]
  exact covers_merge hord (proper_append_of_perm hperm ha hb)

theorem isEnd_of_isEnd_union {a b : Spans ℝ} {z : ℝ} (hz : (union a b).IsEnd z) : a.IsEnd z ∨ b.IsEnd z := by
  obtain ⟨l, hperm, -, heq⟩ := union_eq a b
  rw [heq] at hz
  rw [← isEnd_append, ← isEnd_of_perm hperm]
  cases l with
  | nil => simp [merge] at hz
  | cons s l => exact isEnd_of_isEnd_mergeFrom hz

/-! ### Difference -/

private theorem cut_nil (lo hi : ℝ) : cut lo hi [] = Span.toSpans ⟨lo, hi⟩ := rfl

private theorem cut_cons (lo hi : ℝ) (c : Span ℝ) (l : Spans ℝ) : cut lo hi (c :: l) =
    if c.hi ≤ lo ∨ hi ≤ c.lo then cut lo hi l
    else Span.toSpans ⟨lo, c.lo⟩ ++ if hi ≤ c.hi then [] else cut c.hi hi l := by
  rw [cut]
  split
  · rfl
  · rename_i h
    have hlo : lo ≤ c.hi := le_of_not_ge fun h' => h (.inl h')
    have hkept : (if lo < c.lo then [⟨lo, c.lo⟩] else [] : Spans ℝ) = Span.toSpans ⟨lo, c.lo⟩ := rfl
    simp only [Scalar.larger_real, max_eq_right hlo, hkept]
    split <;> simp

private theorem mem_cut {lo hi : ℝ} {l : Spans ℝ} {t : Span ℝ} (ht : t ∈ cut lo hi l) : lo ≤ t.lo ∧ t.hi ≤ hi := by
  induction l generalizing lo with
  | nil =>
    obtain ⟨rfl, -⟩ := Span.mem_toSpans.1 (cut_nil lo hi ▸ ht)
    exact ⟨le_rfl, le_rfl⟩
  | cons c l ih =>
    rw [cut_cons] at ht
    split at ht
    · exact ih ht
    · rename_i h
      rw [not_or, not_le, not_le] at h
      rcases List.mem_append.1 ht with ht | ht
      · obtain ⟨rfl, -⟩ := Span.mem_toSpans.1 ht
        exact ⟨le_rfl, h.2.le⟩
      · split at ht
        · cases ht
        · exact ⟨h.1.le.trans (ih ht).1, (ih ht).2⟩

/-- Behind the last place where anything begins nothing is covered. -/
private theorem not_covers_of_lt {l : Spans ℝ} {x z : ℝ} (h : ∀ t ∈ l, x < t.lo) (hz : z ≤ x) : ¬ l.Covers z := by
  rintro ⟨t, ht, hlo, -⟩
  exact absurd (h t ht) (not_lt.2 (hlo.trans hz))

private theorem covers_cut {lo hi : ℝ} {l : Spans ℝ} (hl : l.IsNormal) (h : lo < hi) {z : ℝ} (hz : ¬ l.IsEnd z) :
    (cut lo hi l).Covers z ↔ (lo ≤ z ∧ z ≤ hi) ∧ ¬ l.Covers z := by
  induction l generalizing lo with
  | nil => simp [cut_nil, Span.covers_toSpans, Span.Covers, h]
  | cons c l ih =>
    obtain ⟨hc, hcl, hl⟩ := isNormal_cons.1 hl
    rw [isEnd_cons, not_or, not_or] at hz
    obtain ⟨⟨hzlo, hzhi⟩, hz⟩ := hz
    have hout : z ≤ c.hi → ¬ Covers l z := not_covers_of_lt hcl
    rw [cut_cons, covers_cons, not_or]
    split
    -- `c` is off the range, where only an end of `c` could matter
    · rename_i hoff
      rw [ih hl h hz]
      refine and_congr_right fun hin => (and_iff_right ?_).symm
      rintro ⟨h₁, h₂⟩
      rcases hoff with hoff | hoff
      · exact hzhi (le_antisymm h₂ (hoff.trans hin.1))
      · exact hzlo (le_antisymm (hin.2.trans hoff) h₁)
    · rename_i hin
      rw [not_or, not_le, not_le] at hin
      rw [covers_append, Span.covers_toSpans]
      simp only [Span.Covers]
      split
      -- nothing is left behind `c`
      · rename_i hend
        rw [or_iff_left (covers_nil z)]
        constructor
        · rintro ⟨-, h₁, h₂⟩
          have hlt := lt_of_le_of_ne h₂ hzlo
          exact ⟨⟨h₁, h₂.trans hin.2.le⟩, fun hcz => absurd hcz.1 (not_le.2 hlt), hout (h₂.trans hc.le)⟩
        · rintro ⟨⟨h₁, h₂⟩, h₃, -⟩
          have hlt : z < c.lo := not_le.1 fun h' => h₃ ⟨h', h₂.trans hend⟩
          exact ⟨h₁.trans_lt hlt, h₁, hlt.le⟩
      -- what is left lies in front of `c`, or behind it and is cut further
      · rename_i hend
        rw [ih hl (not_le.1 hend) hz]
        constructor
        · rintro (⟨-, h₁, h₂⟩ | ⟨⟨h₁, h₂⟩, h₃⟩)
          · have hlt := lt_of_le_of_ne h₂ hzlo
            exact ⟨⟨h₁, h₂.trans hin.2.le⟩, fun hcz => absurd hcz.1 (not_le.2 hlt), hout (h₂.trans hc.le)⟩
          · have hlt := lt_of_le_of_ne h₁ (Ne.symm hzhi)
            exact ⟨⟨hin.1.le.trans h₁, h₂⟩, fun hcz => absurd hcz.2 (not_le.2 hlt), h₃⟩
        · rintro ⟨⟨h₁, h₂⟩, h₃, h₄⟩
          rcases lt_or_ge z c.lo with hlt | hge
          · exact .inl ⟨h₁.trans_lt hlt, h₁, hlt.le⟩
          · exact .inr ⟨⟨le_of_not_ge fun h' => h₃ ⟨hge, h'⟩, h₂⟩, h₄⟩

private theorem cut_isNormal {lo hi : ℝ} {l : Spans ℝ} (hl : l.Proper) : (cut lo hi l).IsNormal := by
  induction l generalizing lo with
  | nil => exact cut_nil lo hi ▸ Span.isNormal_toSpans _
  | cons c l ih =>
    obtain ⟨hc, hl⟩ := proper_cons.1 hl
    rw [cut_cons]
    split
    · exact ih hl
    · split
      · rw [List.append_nil]
        exact Span.isNormal_toSpans _
      · refine isNormal_append.2 ⟨Span.isNormal_toSpans _, ih hl, fun s hs t ht => ?_⟩
        obtain ⟨rfl, -⟩ := Span.mem_toSpans.1 hs
        exact hc.trans_le (mem_cut ht).1

private theorem isEnd_of_isEnd_cut {lo hi : ℝ} {l : Spans ℝ} {z : ℝ} (hz : (cut lo hi l).IsEnd z) :
    (z = lo ∨ z = hi) ∨ l.IsEnd z := by
  induction l generalizing lo with
  | nil => exact .inl (Span.eq_lo_or_hi_of_isEnd (cut_nil lo hi ▸ hz))
  | cons c l ih =>
    rw [cut_cons] at hz
    rw [isEnd_cons]
    split at hz
    · exact (ih hz).imp_right .inr
    · rcases isEnd_append.1 hz with hz | hz
      · rcases Span.eq_lo_or_hi_of_isEnd hz with h | h
        · exact .inl (.inl h)
        · exact .inr (.inl (.inl h))
      · split at hz
        · simp at hz
        · rcases ih hz with (h | h) | h
          · exact .inr (.inl (.inr h))
          · exact .inl (.inr h)
          · exact .inr (.inr h)

theorem difference_isNormal {a b : Spans ℝ} (ha : a.IsNormal) (hb : b.Proper) : (difference a b).IsNormal := by
  induction a with
  | nil => simp [difference]
  | cons s a ih =>
    obtain ⟨-, hsa, ha⟩ := isNormal_cons.1 ha
    refine isNormal_append.2 ⟨cut_isNormal hb, ih ha, fun t ht u hu => ?_⟩
    obtain ⟨r, hr, hu⟩ := List.mem_flatMap.1 hu
    calc t.hi ≤ s.hi := (mem_cut ht).2
      _ < r.lo := hsa r hr
      _ ≤ u.lo := (mem_cut hu).1

/-- Away from the ends of what is taken away, the difference covers what is left. -/
theorem covers_difference {a b : Spans ℝ} (ha : a.Proper) (hb : b.IsNormal) {z : ℝ} (hz : ¬ b.IsEnd z) :
    (difference a b).Covers z ↔ a.Covers z ∧ ¬ b.Covers z := by
  rw [difference, covers_flatMap]
  constructor
  · rintro ⟨s, hs, h⟩
    obtain ⟨hin, hout⟩ := (covers_cut hb (ha s hs) hz).1 h
    exact ⟨⟨s, hs, hin⟩, hout⟩
  · rintro ⟨⟨s, hs, hin⟩, hout⟩
    exact ⟨s, hs, (covers_cut hb (ha s hs) hz).2 ⟨hin, hout⟩⟩

theorem isEnd_of_isEnd_difference {a b : Spans ℝ} {z : ℝ} (hz : (difference a b).IsEnd z) :
    a.IsEnd z ∨ b.IsEnd z := by
  obtain ⟨t, ht, hz⟩ := hz
  obtain ⟨s, hs, ht⟩ := List.mem_flatMap.1 ht
  exact (isEnd_of_isEnd_cut ⟨t, ht, hz⟩).imp_left fun h => ⟨s, hs, h⟩

end Spans

end SolidDrawing
