import SolidDrawing.Proofs.Volumes

/-!
# Grids

A grid cuts a line at its edges into cells. No edge lies inside a cell, and the edges of `Cell.edges` are the uniform
ones and all breakpoints between them. What is the same all over each cell, and zero outside the grid, is integrated by
its values in the middles of the cells (`Cell.lintegral_eq_sum_between`).
-/

namespace SolidDrawing.Cell

open MeasureTheory

/-- Where a cell begins. -/
def start {K : Type} [Scalar K] (c : Cell K) : K := c.middle - c.width / 2

/-- Where a cell ends. -/
def stop {K : Type} [Scalar K] (c : Cell K) : K := c.middle + c.width / 2

theorem start_real (c : Cell ℝ) : c.start = c.middle - c.width / 2 := by rw [start, Scalar.two_real]

theorem stop_real (c : Cell ℝ) : c.stop = c.middle + c.width / 2 := by rw [stop, Scalar.two_real]

/-- The points strictly between the two ends of a cell. -/
def interior (c : Cell ℝ) : Set ℝ := Set.Ioo c.start c.stop

theorem mem_interior {c : Cell ℝ} {t : ℝ} :
    t ∈ c.interior ↔ c.middle - c.width / 2 < t ∧ t < c.middle + c.width / 2 := by
  rw [interior, Set.mem_Ioo, start_real, stop_real]

theorem interior_mk (a b : ℝ) : interior ⟨(a + b) / 2, b - a⟩ = Set.Ioo a b := by
  have hlo : (a + b) / 2 - (b - a) / 2 = a := by ring
  have hhi : (a + b) / 2 + (b - a) / 2 = b := by ring
  rw [interior, start_real, stop_real, hlo, hhi]

theorem middle_mem_interior {c : Cell ℝ} (h : 0 < c.width) : c.middle ∈ c.interior := by
  rw [mem_interior]
  constructor <;> linarith

theorem width_pos_of_mem_interior {c : Cell ℝ} {t : ℝ} (h : t ∈ c.interior) : 0 < c.width := by
  obtain ⟨hlo, hhi⟩ := mem_interior.1 h
  linarith

theorem between_cons_cons (a b : ℝ) (rest : List ℝ) :
    between (a :: b :: rest) = ⟨(a + b) / 2, b - a⟩ :: between (b :: rest) := by
  rw [between, Scalar.two_real]

@[simp] theorem between_singleton (a : ℝ) : between [a] = [] := rfl

/-- A cell ends at two edges, and the other edges lie beyond them. -/
theorem exists_eq_of_mem_between {edges : List ℝ} (hs : edges.Pairwise (· ≤ ·)) {c : Cell ℝ} (hc : c ∈ between edges) :
    ∃ a ∈ edges, ∃ b ∈ edges, c = ⟨(a + b) / 2, b - a⟩ ∧ ∀ e ∈ edges, e ≤ a ∨ b ≤ e := by
  induction edges with
  | nil => cases hc
  | cons a rest ih =>
    obtain ⟨ha, hrest⟩ := List.pairwise_cons.1 hs
    cases rest with
    | nil => cases hc
    | cons b rest =>
      rw [between_cons_cons, List.mem_cons] at hc
      rcases hc with rfl | hc
      · refine ⟨a, by simp, b, by simp, rfl, ?_⟩
        obtain ⟨hb, -⟩ := List.pairwise_cons.1 hrest
        exact List.forall_mem_cons.2 ⟨.inl le_rfl, List.forall_mem_cons.2 ⟨.inr le_rfl, fun e he => .inr (hb e he)⟩⟩
      · obtain ⟨a', ha', b', hb', heq, hedges⟩ := ih hrest hc
        exact ⟨a', by simp [ha'], b', by simp [hb'], heq, List.forall_mem_cons.2 ⟨.inl (ha a' ha'), hedges⟩⟩

/-- Two different edges with no other edge between them are the ends of a cell. -/
theorem mem_between {edges : List ℝ} (hs : edges.Pairwise (· ≤ ·)) {a b : ℝ} (ha : a ∈ edges) (hb : b ∈ edges)
    (hab : a < b) (hedges : ∀ e ∈ edges, e ≤ a ∨ b ≤ e) : ⟨(a + b) / 2, b - a⟩ ∈ between edges := by
  induction edges with
  | nil => cases ha
  | cons first rest ih =>
    obtain ⟨hfirst, hrest⟩ := List.pairwise_cons.1 hs
    have hbrest : b ∈ rest := by
      rcases List.mem_cons.1 hb with rfl | hb
      · rcases List.mem_cons.1 ha with rfl | ha
        · exact absurd hab (lt_irrefl _)
        · exact absurd hab (not_lt.2 (hfirst a ha))
      · exact hb
    cases rest with
    | nil => cases hbrest
    | cons second rest =>
      rw [between_cons_cons, List.mem_cons]
      by_cases ha' : a ∈ second :: rest
      · exact .inr (ih hrest ha' hbrest (List.forall_mem_cons.1 hedges).2)
      · obtain rfl : a = first := (List.mem_cons.1 ha).resolve_right ha'
        -- the next edge is not below the other end, and so it is the other end
        have hsecond : b ≤ second := (hedges second (by simp)).resolve_left fun hle =>
          ha' (by rw [le_antisymm (hfirst second (by simp)) hle]; simp)
        have hle : second ≤ b := (List.mem_cons.1 hbrest).elim (fun heq => heq.ge) (List.rel_of_pairwise_cons hrest)
        obtain rfl := le_antisymm hle hsecond
        exact .inl rfl

theorem notMem_interior {edges : List ℝ} (hs : edges.Pairwise (· ≤ ·)) {c : Cell ℝ} (hc : c ∈ between edges) {e : ℝ}
    (he : e ∈ edges) : e ∉ c.interior := by
  obtain ⟨a, -, b, -, rfl, hedges⟩ := exists_eq_of_mem_between hs hc
  rw [interior_mk]
  rintro ⟨hae, heb⟩
  rcases hedges e he with h | h
  · exact absurd hae (not_lt.2 h)
  · exact absurd heb (not_lt.2 h)

/-- Inside a cell a value that lies outside is not passed. -/
theorem le_iff_of_mem_interior {c : Cell ℝ} {b t u : ℝ} (hb : b ∉ c.interior) (ht : t ∈ c.interior)
    (hu : u ∈ c.interior) : (b ≤ t ↔ b ≤ u) ∧ (t ≤ b ↔ u ≤ b) := by
  rw [interior, Set.mem_Ioo, not_and_or, not_lt, not_lt] at hb
  obtain ⟨ht, ht'⟩ := ht
  obtain ⟨hu, hu'⟩ := hu
  rcases hb with hb | hb
  · exact ⟨iff_of_true (hb.trans ht.le) (hb.trans hu.le), iff_of_false (by linarith) (by linarith)⟩
  · exact ⟨iff_of_false (by linarith) (by linarith), iff_of_true (ht'.le.trans hb) (hu'.le.trans hb)⟩

theorem width_pos_of_mem_between {edges : List ℝ} (hs : edges.Pairwise (· < ·)) {c : Cell ℝ} (hc : c ∈ between edges) :
    0 < c.width := by
  induction edges with
  | nil => cases hc
  | cons a rest ih =>
    cases rest with
    | nil => cases hc
    | cons b rest =>
      rw [between_cons_cons, List.mem_cons] at hc
      rcases hc with rfl | hc
      · exact sub_pos.2 (List.rel_of_pairwise_cons hs List.mem_cons_self)
      · exact ih hs.of_cons hc

/-! ### The edges of a refined grid -/

private theorem mem_distinctFrom {x e : ℝ} {xs : List ℝ} : e ∈ distinctFrom x xs ↔ e = x ∨ e ∈ xs := by
  induction xs generalizing x with
  | nil => simp [distinctFrom]
  | cons y rest ih =>
    rw [distinctFrom]
    split
    case isTrue h =>
      obtain rfl : y = x := by simpa using h
      simp [ih]
    case isFalse h => simp [ih]

theorem mem_distinct {e : ℝ} {xs : List ℝ} : e ∈ distinct xs ↔ e ∈ xs := by
  cases xs with
  | nil => rfl
  | cons x rest => rw [distinct, mem_distinctFrom, List.mem_cons]

theorem mem_edges {breaks : List ℝ} {lo hi : ℝ} {samples : Nat} {e : ℝ} : e ∈ edges breaks lo hi samples ↔
    e ∈ uniformEdges lo hi (max samples 1) ∨ e ∈ breaks ∧ lo < e ∧ e < hi := by
  simp [edges, mem_distinct, List.mem_mergeSort]

section

variable {breaks : List ℝ} {lo hi : ℝ} {samples : Nat}

theorem mem_uniformEdges {n : Nat} {e : ℝ} :
    e ∈ uniformEdges lo hi n ↔ ∃ i ≤ n, e = lo + (hi - lo) * i / n := by
  simp [uniformEdges, eq_comm]

theorem lo_mem_edges : lo ∈ edges breaks lo hi samples :=
  mem_edges.2 (.inl (mem_uniformEdges.2 ⟨0, Nat.zero_le _, by simp⟩))

theorem hi_mem_edges : hi ∈ edges breaks lo hi samples := by
  refine mem_edges.2 (.inl (mem_uniformEdges.2 ⟨max samples 1, le_rfl, ?_⟩))
  have hn : ((max samples 1 : ℕ) : ℝ) ≠ 0 := by positivity
  rw [mul_div_assoc, div_self hn]
  ring

theorem lo_le_of_mem_edges (h : lo ≤ hi) {e : ℝ} (he : e ∈ edges breaks lo hi samples) : lo ≤ e := by
  rcases mem_edges.1 he with he | ⟨-, hlo, -⟩
  · obtain ⟨i, -, rfl⟩ := mem_uniformEdges.1 he
    have := sub_nonneg.2 h
    have : 0 ≤ (hi - lo) * i / (max samples 1 : ℕ) := by positivity
    linarith
  · exact hlo.le

theorem le_hi_of_mem_edges (h : lo ≤ hi) {e : ℝ} (he : e ∈ edges breaks lo hi samples) : e ≤ hi := by
  rcases mem_edges.1 he with he | ⟨-, -, hhi⟩
  · obtain ⟨i, hin, rfl⟩ := mem_uniformEdges.1 he
    have hle : (i : ℝ) / (max samples 1 : ℕ) ≤ 1 := div_le_one_of_le₀ (Nat.cast_le.2 hin) (Nat.cast_nonneg _)
    have := mul_le_of_le_one_right (sub_nonneg.2 h) hle
    rw [mul_div_assoc]
    linarith
  · exact hhi.le

/-- No breakpoint lies inside a cell, wherever it is. -/
theorem notMem_interior_of_mem_breaks (h : lo ≤ hi) {c : Cell ℝ} (hc : c ∈ between (edges breaks lo hi samples)) {b : ℝ}
    (hb : b ∈ breaks) : b ∉ c.interior := by
  obtain ⟨a, ha, a', ha', rfl, hedges⟩ := exists_eq_of_mem_between (edges_sorted ..) hc
  rw [interior_mk]
  rintro ⟨hlt, hlt'⟩
  -- a breakpoint that lies in a cell lies between the ends of the grid, so it was made an edge
  have hlo := (lo_le_of_mem_edges h ha).trans_lt hlt
  have hhi := hlt'.trans_le (le_hi_of_mem_edges h ha')
  rcases hedges b (mem_edges.2 (.inr ⟨hb, hlo, hhi⟩)) with hle | hle
  · exact absurd hlt (not_lt.2 hle)
  · exact absurd hlt' (not_lt.2 hle)

end

/-- Equal values are neighbours among values in order, so that each of them is left once. -/
private theorem distinctFrom_strictSorted {x : ℝ} {xs : List ℝ} (h : (x :: xs).Pairwise (· ≤ ·)) :
    (distinctFrom x xs).Pairwise (· < ·) := by
  induction xs generalizing x with
  | nil => exact List.pairwise_singleton _ _
  | cons y rest ih =>
    obtain ⟨hx, hrest⟩ := List.pairwise_cons.1 h
    rw [distinctFrom]
    split
    case isTrue hsame =>
      obtain rfl : y = x := by simpa using hsame
      exact ih hrest
    case isFalse hother =>
      have hxy : x < y := lt_of_le_of_ne (hx y List.mem_cons_self) fun heq => hother (by simp [heq])
      refine List.pairwise_cons.2 ⟨fun e he => ?_, ih hrest⟩
      rcases mem_distinctFrom.1 he with rfl | he
      · exact hxy
      · exact hxy.trans_le (List.rel_of_pairwise_cons hrest he)

theorem distinct_strictSorted {xs : List ℝ} (h : xs.Pairwise (· ≤ ·)) : (distinct xs).Pairwise (· < ·) := by
  cases xs with
  | nil => exact List.Pairwise.nil
  | cons x rest => exact distinctFrom_strictSorted h

theorem edges_strictSorted (breaks : List ℝ) (lo hi : ℝ) (samples : Nat) :
    (edges breaks lo hi samples).Pairwise (· < ·) := distinct_strictSorted (mergeSort_sorted _)

/-- A grid depends on its breakpoints only as a set. -/
theorem edges_congr {breaks breaks' : List ℝ} (h : ∀ b, b ∈ breaks ↔ b ∈ breaks') (lo hi : ℝ) (samples : Nat) :
    edges breaks lo hi samples = edges breaks' lo hi samples := by
  refine List.Pairwise.eq_of_mem_iff (edges_strictSorted ..) (edges_strictSorted ..) fun e => ?_
  rw [mem_edges, mem_edges, h]

/-! ### Sums and integrals -/

/-- Cells between two edges that all others lie between are as wide together as the two are apart. -/
theorem sum_width_between {edges : List ℝ} (hs : edges.Pairwise (· ≤ ·)) {lo hi : ℝ} (hlo : lo ∈ edges)
    (hhi : hi ∈ edges) (hin : ∀ e ∈ edges, lo ≤ e ∧ e ≤ hi) : ((between edges).map width).sum = hi - lo := by
  induction edges generalizing lo with
  | nil => cases hlo
  | cons a rest ih =>
    obtain ⟨ha, hrest⟩ := List.pairwise_cons.1 hs
    obtain rfl : lo = a := by
      refine le_antisymm (hin a List.mem_cons_self).1 ?_
      exact (List.mem_cons.1 hlo).elim (fun heq => heq.ge) (ha lo)
    cases rest with
    | nil =>
      obtain rfl := List.mem_singleton.1 hhi
      simp
    | cons b rest =>
      obtain ⟨hb, -⟩ := List.pairwise_cons.1 hrest
      have hhi : hi ∈ b :: rest := by
        rcases List.mem_cons.1 hhi with rfl | hhi
        · exact le_antisymm (ha b List.mem_cons_self) (hin b (by simp)).2 ▸ List.mem_cons_self
        · exact hhi
      have hin : ∀ e ∈ b :: rest, b ≤ e ∧ e ≤ hi := fun e he =>
        ⟨(List.mem_cons.1 he).elim (fun heq => heq.ge) (hb e), (hin e (List.mem_cons_of_mem _ he)).2⟩
      rw [between_cons_cons, List.map_cons, List.sum_cons, ih hrest List.mem_cons_self hhi hin]
      ring

theorem sum_width_edges {breaks : List ℝ} {lo hi : ℝ} (h : lo ≤ hi) (samples : Nat) :
    ((between (edges breaks lo hi samples)).map width).sum = hi - lo :=
  sum_width_between (edges_sorted ..) lo_mem_edges hi_mem_edges fun _ he =>
    ⟨lo_le_of_mem_edges h he, le_hi_of_mem_edges h he⟩

section

variable {cells : List (Cell ℝ)} {f : Cell ℝ → ℝ}

theorem sum_nonneg (hf : ∀ c ∈ cells, 0 ≤ f c) (hw : ∀ c ∈ cells, 0 ≤ c.width) :
    0 ≤ (cells.map fun c => f c * c.width).sum := by
  refine List.sum_nonneg fun term hterm => ?_
  obtain ⟨c, hc, rfl⟩ := List.mem_map.1 hterm
  exact mul_nonneg (hf c hc) (hw c hc)

theorem ofReal_sum (hf : ∀ c ∈ cells, 0 ≤ f c) (hw : ∀ c ∈ cells, 0 ≤ c.width) :
    ENNReal.ofReal (cells.map fun c => f c * c.width).sum =
      (cells.map fun c => ENNReal.ofReal (f c) * ENNReal.ofReal c.width).sum := by
  induction cells with
  | nil => simp
  | cons c rest ih =>
    obtain ⟨hc, hrest⟩ := List.forall_mem_cons.1 hf
    obtain ⟨hwc, hwrest⟩ := List.forall_mem_cons.1 hw
    rw [List.map_cons, List.sum_cons, List.map_cons, List.sum_cons,
      ENNReal.ofReal_add (mul_nonneg hc hwc) (sum_nonneg hrest hwrest), ENNReal.ofReal_mul hc, ih hrest hwrest]

end

section

variable {f : ℝ → ENNReal}

private theorem lintegral_Ioi_eq_sum {a : ℝ} {rest : List ℝ} (hs : (a :: rest).Pairwise (· ≤ ·))
    (hconst : ∀ c ∈ between (a :: rest), ∀ t ∈ c.interior, f t = f c.middle)
    (hout : ∀ t, (∀ e ∈ a :: rest, e < t) → f t = 0) :
    ∫⁻ t in Set.Ioi a, f t = ((between (a :: rest)).map fun c => f c.middle * ENNReal.ofReal c.width).sum := by
  induction rest generalizing a with
  | nil =>
    rw [setLIntegral_congr_fun measurableSet_Ioi (g := fun _ => 0)]
    · simp
    · exact fun t ht => hout t (by simpa using ht)
  | cons b rest ih =>
    obtain ⟨ha, hrest⟩ := List.pairwise_cons.1 hs
    have hab : a ≤ b := ha b List.mem_cons_self
    rw [between_cons_cons] at hconst ⊢
    obtain ⟨hfirst, hnext⟩ := List.forall_mem_cons.1 hconst
    rw [interior_mk] at hfirst
    -- the edges themselves have measure zero, whatever `f` is there
    have hcell : ∫⁻ t in Set.Ioc a b, f t = f ((a + b) / 2) * ENNReal.ofReal (b - a) := by
      rw [← setLIntegral_congr Ioo_ae_eq_Ioc, setLIntegral_congr_fun measurableSet_Ioo hfirst, setLIntegral_const,
        Real.volume_Ioo]
    have hbeyond : ∀ t, (∀ e ∈ b :: rest, e < t) → f t = 0 := fun t ht =>
      hout t (List.forall_mem_cons.2 ⟨hab.trans_lt (ht b List.mem_cons_self), ht⟩)
    rw [← Set.Ioc_union_Ioi_eq_Ioi hab, lintegral_union measurableSet_Ioi (Set.Ioc_disjoint_Ioi le_rfl), hcell,
      ih hrest hnext hbeyond, List.map_cons, List.sum_cons]

/-- A function that is the same all over each cell, and zero outside the grid. -/
theorem lintegral_eq_sum_between {edges : List ℝ} (hs : edges.Pairwise (· ≤ ·))
    (hconst : ∀ c ∈ between edges, ∀ t ∈ c.interior, f t = f c.middle)
    (hout : ∀ t, (∀ e ∈ edges, e < t) ∨ (∀ e ∈ edges, t < e) → f t = 0) :
    ∫⁻ t, f t = ((between edges).map fun c => f c.middle * ENNReal.ofReal c.width).sum := by
  cases edges with
  | nil =>
    have hzero : f = fun _ => 0 := funext fun t => hout t (.inl nofun)
    simp [hzero, between]
  | cons a rest =>
    obtain ⟨ha, -⟩ := List.pairwise_cons.1 hs
    have hbelow : ∫⁻ t in Set.Iic a, f t = 0 := by
      rw [← setLIntegral_congr Iio_ae_eq_Iic, setLIntegral_congr_fun measurableSet_Iio (g := fun _ => 0)]
      · simp
      · exact fun t ht => hout t (.inr (List.forall_mem_cons.2 ⟨ht, fun e he => ht.trans_le (ha e he)⟩))
    rw [← lintegral_add_compl f measurableSet_Iic (A := Set.Iic a), hbelow, zero_add, Set.compl_Iic]
    exact lintegral_Ioi_eq_sum hs hconst fun t ht => hout t (.inl ht)

end

end SolidDrawing.Cell
