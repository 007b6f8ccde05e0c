import SolidDrawing.Proofs.Grids

/-!
# Tilings

Cells tile a line if each begins where the one before it ends. Every point of the line then lies in exactly one of them,
its end not counted (`Cell.Tiles.existsUnique`). The edges of a refined grid increase strictly from one end of the grid
to the other, so that its cells tile what is between the two (`Cell.edges_tile`).
-/

namespace SolidDrawing.Cell

/-- The cells have positive widths, and stand one behind the other from `lo` to `hi`. -/
def Tiles : List (Cell ℝ) → ℝ → ℝ → Prop
  | [], lo, hi => lo = hi
  | c :: rest, lo, hi => c.start = lo ∧ 0 < c.width ∧ Tiles rest c.stop hi

theorem start_mk (a b : ℝ) : start ⟨(a + b) / 2, b - a⟩ = a := by
  rw [start_real]
  ring

theorem stop_mk (a b : ℝ) : stop ⟨(a + b) / 2, b - a⟩ = b := by
  rw [stop_real]
  ring

theorem start_lt_stop {c : Cell ℝ} (h : 0 < c.width) : c.start < c.stop := by
  rw [start_real, stop_real]
  linarith

namespace Tiles

variable {cells : List (Cell ℝ)} {lo hi : ℝ}

theorem le (h : Tiles cells lo hi) : lo ≤ hi := by
  induction cells generalizing lo with
  | nil => exact h.le
  | cons c rest ih =>
    obtain ⟨rfl, hwidth, hrest⟩ := h
    exact (start_lt_stop hwidth).le.trans (ih hrest)

theorem bounds (h : Tiles cells lo hi) : ∀ c ∈ cells, lo ≤ c.start ∧ c.start < c.stop ∧ c.stop ≤ hi := by
  induction cells generalizing lo with
  | nil => exact nofun
  | cons c rest ih =>
    obtain ⟨rfl, hwidth, hrest⟩ := h
    have hc := start_lt_stop hwidth
    refine List.forall_mem_cons.2 ⟨⟨le_rfl, hc, hrest.le⟩, fun d hd => ?_⟩
    obtain ⟨hstart, hd⟩ := ih hrest d hd
    exact ⟨hc.le.trans hstart, hd⟩

/-- Every point lies in exactly one cell. -/
theorem existsUnique (h : Tiles cells lo hi) {t : ℝ} (hlo : lo ≤ t) (hhi : t < hi) :
    ∃! c, c ∈ cells ∧ c.start ≤ t ∧ t < c.stop := by
  induction cells generalizing lo with
  | nil => exact absurd hhi (not_lt.2 (h ▸ hlo))
  | cons c rest ih =>
    obtain ⟨rfl, hwidth, hrest⟩ := h
    rcases lt_or_ge t c.stop with hstop | hstop
    · -- the cells behind the first one begin where it ends or beyond
      refine ⟨c, ⟨List.mem_cons_self, hlo, hstop⟩, fun d ⟨hd, hstart, _⟩ => ?_⟩
      refine (List.mem_cons.1 hd).resolve_right fun hd => ?_
      exact absurd ((hrest.bounds d hd).1.trans hstart) (not_le.2 hstop)
    · obtain ⟨d, ⟨hd, hin⟩, hunique⟩ := ih hrest hstop
      refine ⟨d, ⟨List.mem_cons_of_mem c hd, hin⟩, fun d' ⟨hd', hin'⟩ => ?_⟩
      refine hunique d' ⟨(List.mem_cons.1 hd').resolve_left ?_, hin'⟩
      rintro rfl
      exact absurd hin'.2 (not_lt.2 hstop)

end Tiles

/-! ### Strictly increasing edges -/

section

variable {edges : List ℝ} {lo hi : ℝ}

theorem head?_eq_of_sorted (hs : edges.Pairwise (· ≤ ·)) (hlo : lo ∈ edges) (h : ∀ e ∈ edges, lo ≤ e) :
    edges.head? = some lo := by
  cases edges with
  | nil => cases hlo
  | cons a rest =>
    have ha : a ≤ lo := (List.mem_cons.1 hlo).elim (fun heq => heq.ge) (List.rel_of_pairwise_cons hs)
    rw [List.head?_cons, le_antisymm ha (h a List.mem_cons_self)]

theorem getLast?_eq_of_sorted (hs : edges.Pairwise (· ≤ ·)) (hhi : hi ∈ edges) (h : ∀ e ∈ edges, e ≤ hi) :
    edges.getLast? = some hi := by
  induction edges with
  | nil => cases hhi
  | cons a rest ih =>
    cases rest with
    | nil => rw [List.getLast?_singleton, List.mem_singleton.1 hhi]
    | cons b rest =>
      have hmem : hi ∈ b :: rest := by
        rcases List.mem_cons.1 hhi with rfl | hmem
        · have hb := le_antisymm (h b (by simp)) (List.rel_of_pairwise_cons hs List.mem_cons_self)
          exact hb ▸ List.mem_cons_self
        · exact hmem
      rw [List.getLast?_cons_cons]
      exact ih hs.of_cons hmem fun e he => h e (List.mem_cons_of_mem a he)

theorem tiles_between {a : ℝ} (hs : (a :: edges).Pairwise (· < ·)) (hlast : (a :: edges).getLast? = some hi) :
    Tiles (between (a :: edges)) a hi := by
  induction edges generalizing a with
  | nil => exact Option.some.inj hlast
  | cons b rest ih =>
    rw [List.getLast?_cons_cons] at hlast
    rw [between_cons_cons]
    refine ⟨start_mk a b, sub_pos.2 (List.rel_of_pairwise_cons hs List.mem_cons_self), ?_⟩
    rw [stop_mk]
    exact ih hs.of_cons hlast

end

/-- The edges of a grid increase strictly from its one end to the other. They are the ends of the equal parts, of which
there is at least one, and the breakpoints inside, wherever the other breakpoints are. So the cells tile the grid. -/
theorem edges_tile {lo hi : ℝ} (h : lo < hi) (breaks : List ℝ) (samples : Nat) :
    (edges breaks lo hi samples).Pairwise (· < ·) ∧
      (edges breaks lo hi samples).head? = some lo ∧
      (edges breaks lo hi samples).getLast? = some hi ∧
      (∀ e, e ∈ edges breaks lo hi samples ↔
        (∃ i ≤ max samples 1, e = lo + (hi - lo) * i / (max samples 1 : ℕ)) ∨ e ∈ breaks ∧ lo < e ∧ e < hi) ∧
      Tiles (between (edges breaks lo hi samples)) lo hi ∧
      ((between (edges breaks lo hi samples)).map width).sum = hi - lo ∧
      ∀ t, lo ≤ t → t < hi → ∃! c, c ∈ between (edges breaks lo hi samples) ∧ c.start ≤ t ∧ t < c.stop := by
  have hstrict := edges_strictSorted breaks lo hi samples
  have hhead : (edges breaks lo hi samples).head? = some lo :=
    head?_eq_of_sorted (edges_sorted ..) lo_mem_edges fun e he => lo_le_of_mem_edges h.le he
  have hlast : (edges breaks lo hi samples).getLast? = some hi :=
    getLast?_eq_of_sorted (edges_sorted ..) hi_mem_edges fun e he => le_hi_of_mem_edges h.le he
  have hmem (e : ℝ) : e ∈ edges breaks lo hi samples ↔
      (∃ i ≤ max samples 1, e = lo + (hi - lo) * i / (max samples 1 : ℕ)) ∨ e ∈ breaks ∧ lo < e ∧ e < hi := by
    rw [mem_edges, mem_uniformEdges]
  have htiles : Tiles (between (edges breaks lo hi samples)) lo hi := by
    obtain ⟨rest, hrest⟩ := List.head?_eq_some_iff.1 hhead
    rw [hrest] at hstrict hlast ⊢
    exact tiles_between hstrict hlast
  exact ⟨hstrict, hhead, hlast, hmem, htiles, sum_width_edges h.le samples, fun t => htiles.existsUnique⟩

/-- Two equal parts, the first of them with a breakpoint inside that is there twice. The other breakpoints are an edge,
an end of the grid, and a point behind the grid. -/
theorem edges_tile_halves : (0 : ℝ) < 4 ∧ edges [2, 1, 9, 1, 0] (0 : ℝ) 4 2 = [0, 1, 2, 4] := by
  have h : (0 : ℝ) < 4 := by norm_num
  obtain ⟨hstrict, -, -, hmem, -⟩ := edges_tile h [2, 1, 9, 1, 0] 2
  refine ⟨h, List.Pairwise.eq_of_mem_iff hstrict (by norm_num) fun e => (hmem e).trans ?_⟩
  have hparts : (∃ i : ℕ, i ≤ max 2 1 ∧ e = 0 + (4 - 0) * i / (max 2 1 : ℕ)) ↔ e = 0 ∨ e = 2 ∨ e = 4 := by
    constructor
    · rintro ⟨i, hi, rfl⟩
      have hi : i ≤ 2 := hi
      interval_cases i <;> norm_num
    · rintro (rfl | rfl | rfl)
      · exact ⟨0, by norm_num⟩
      · exact ⟨1, by norm_num⟩
      · exact ⟨2, by norm_num⟩
  rw [hparts]
  simp only [List.mem_cons, List.not_mem_nil, or_false]
  grind

end SolidDrawing.Cell
