import SolidDrawing.Proofs.Exact
import SolidDrawing.Sheet.Layout

/-!
# Cells of frames

The frames of a sheet are the cells of a grid between the border and the title block, filled row by row: the frame with
number `i` is in row `i / p` and column `i % p`, for `p` frames in a row. In exact arithmetic the rows are as few as
possible (`SheetConfig.isLeast_rowsFor`), and the cells of a sheet with room for a frame lie beside one another
(`SheetConfig.disjoint_cells`), between the border and the title block (`SheetConfig.cell_within`,
`SheetConfig.cell_bottom_le`). `SheetConfig.isTidy_layout` says so of every layout.
-/

namespace SolidDrawing

/-! ### Rectangles -/

namespace Rect

/-- The right edge. -/
def right (r : Rect ℝ) : ℝ := r.x + r.width

/-- The bottom edge. -/
def bottom (r : Rect ℝ) : ℝ := r.y + r.height

/-- The points between the edges. -/
def interior (r : Rect ℝ) : Set (ℝ × ℝ) := Set.Ioo r.x r.right ×ˢ Set.Ioo r.y r.bottom

/-- No edge goes beyond those of the other rectangle. -/
structure Within (r s : Rect ℝ) : Prop where
  left : s.x ≤ r.x
  right : r.right ≤ s.right
  top : s.y ≤ r.y
  bottom : r.bottom ≤ s.bottom

theorem disjoint_interior_of_right_le {r s : Rect ℝ} (h : r.right ≤ s.x) : Disjoint r.interior s.interior := by
  refine Set.disjoint_left.2 ?_
  rintro ⟨x, y⟩ ⟨⟨-, hr⟩, -⟩ ⟨⟨hs, -⟩, -⟩
  exact absurd (hr.trans_le h) (not_lt.2 hs.le)

theorem disjoint_interior_of_bottom_le {r s : Rect ℝ} (h : r.bottom ≤ s.y) : Disjoint r.interior s.interior := by
  refine Set.disjoint_left.2 ?_
  rintro ⟨x, y⟩ ⟨-, -, hr⟩ ⟨-, hs, -⟩
  exact absurd (hr.trans_le h) (not_lt.2 hs.le)

end Rect

namespace SheetConfig

/-! ### Rows -/

section

variable {K : Type} (c : SheetConfig K)

theorem perRow_pos : 0 < c.perRow := Nat.le_max_right _ _

/-- The number of rows that `n` frames take up. -/
def rowsFor (n : Nat) : Nat := (n + c.perRow - 1) / c.perRow

theorem rowsFor_le_iff {n r : Nat} : c.rowsFor n ≤ r ↔ n ≤ r * c.perRow := by
  have hpos := c.perRow_pos
  rw [rowsFor, Nat.div_le_iff_le_mul_add_pred hpos, Nat.mul_comm]
  omega

theorem lt_rowsFor_iff {n r : Nat} : r < c.rowsFor n ↔ r * c.perRow < n := by
  rw [← not_le, rowsFor_le_iff, not_le]

/-- The rows are as few as can hold all frames. -/
theorem isLeast_rowsFor (n : Nat) : IsLeast {r | n ≤ r * max c.columns 1} (c.rowsFor n) :=
  ⟨c.rowsFor_le_iff.1 le_rfl, fun _ h => c.rowsFor_le_iff.2 h⟩

/-- The rows that frames are in are those from the first one on. -/
theorem exists_div_eq_iff {n r : Nat} : (∃ i < n, i / c.perRow = r) ↔ r < c.rowsFor n := by
  rw [lt_rowsFor_iff]
  constructor
  · rintro ⟨i, hi, rfl⟩
    exact (Nat.div_mul_le_self i c.perRow).trans_lt hi
  · intro h
    exact ⟨r * c.perRow, h, Nat.mul_div_cancel r c.perRow_pos⟩

theorem rows_eq (n : Nat) : c.rows n = max (c.rowsFor n) 1 := rfl

theorem rows_pos (n : Nat) : 0 < c.rows n := Nat.le_max_right _ _

theorem div_lt_rows {n i : Nat} (hi : i < n) : i / c.perRow < c.rows n :=
  (c.exists_div_eq_iff.1 ⟨i, hi, rfl⟩).trans_le (Nat.le_max_left _ _)

end

/-! ### Cells -/

/-- There is room for a frame between the border and the title block. -/
structure HasRoom (c : SheetConfig ℝ) : Prop where
  margin_nonneg : 0 ≤ c.margin
  titleBlock_nonneg : 0 ≤ c.titleBlock
  lt_width : 2 * c.margin < c.width
  lt_height : 2 * c.margin + c.titleBlock < c.height

variable {c : SheetConfig ℝ} {n i j : Nat}

theorem border_real (c : SheetConfig ℝ) :
    c.border = ⟨c.margin, c.margin, c.width - 2 * c.margin, c.height - 2 * c.margin⟩ := by
  rw [border, Scalar.two_real]

theorem titleRect_real (c : SheetConfig ℝ) : c.titleRect =
    ⟨c.margin, c.height - c.margin - c.titleBlock, c.width - 2 * c.margin, c.titleBlock⟩ := by
  rw [titleRect, border_real]
  congr 1
  dsimp only
  ring

theorem titleRect_bottom (c : SheetConfig ℝ) : c.titleRect.bottom = c.border.bottom := by
  rw [titleRect_real, border_real, Rect.bottom, Rect.bottom]
  dsimp only
  ring

theorem titleRect_y_sub (c : SheetConfig ℝ) :
    c.titleRect.y - c.border.y = c.height - 2 * c.margin - c.titleBlock := by
  rw [titleRect_real, border_real]
  dsimp only
  ring

theorem cellWidth_mul (c : SheetConfig ℝ) : c.perRow * c.cellWidth = c.width - 2 * c.margin := by
  have hne : (c.perRow : ℝ) ≠ 0 := Nat.cast_ne_zero.2 c.perRow_pos.ne'
  rw [cellWidth, border_real, Scalar.ofCount_real]
  exact mul_div_cancel₀ _ hne

/-- The rows share the room above the title block. -/
theorem cellHeight_mul (c : SheetConfig ℝ) (n : Nat) :
    c.rows n * c.cellHeight n = c.height - 2 * c.margin - c.titleBlock := by
  have hne : (c.rows n : ℝ) ≠ 0 := Nat.cast_ne_zero.2 (c.rows_pos n).ne'
  rw [cellHeight, border_real, Scalar.ofCount_real]
  exact mul_div_cancel₀ _ hne

theorem HasRoom.cellWidth_pos (h : c.HasRoom) : 0 < c.cellWidth := by
  have hmul := c.cellWidth_mul
  have hpos : (0 : ℝ) < c.perRow := Nat.cast_pos.2 c.perRow_pos
  refine pos_of_mul_pos_right (hmul ▸ ?_) hpos.le
  linarith [h.lt_width]

theorem HasRoom.cellHeight_pos (h : c.HasRoom) (n : Nat) : 0 < c.cellHeight n := by
  have hmul := c.cellHeight_mul n
  have hpos : (0 : ℝ) < c.rows n := Nat.cast_pos.2 (c.rows_pos n)
  refine pos_of_mul_pos_right (hmul ▸ ?_) hpos.le
  linarith [h.lt_height]

theorem cell_x (c : SheetConfig ℝ) (n i : Nat) :
    (c.cell n i).x = c.margin + (i % c.perRow : ℕ) * c.cellWidth := rfl

theorem cell_y (c : SheetConfig ℝ) (n i : Nat) :
    (c.cell n i).y = c.margin + (i / c.perRow : ℕ) * c.cellHeight n := rfl

theorem cell_right (c : SheetConfig ℝ) (n i : Nat) :
    (c.cell n i).right = c.margin + ((i % c.perRow + 1 : ℕ)) * c.cellWidth := by
  rw [Rect.right, cell_x, Nat.cast_succ, add_one_mul, add_assoc]
  rfl

theorem cell_bottom (c : SheetConfig ℝ) (n i : Nat) :
    (c.cell n i).bottom = c.margin + ((i / c.perRow + 1 : ℕ)) * c.cellHeight n := by
  rw [Rect.bottom, cell_y, Nat.cast_succ, add_one_mul, add_assoc]
  rfl

/-- The frames end where the title block begins. -/
theorem HasRoom.cell_bottom_le (h : c.HasRoom) (hi : i < n) : (c.cell n i).bottom ≤ c.titleRect.y := by
  have hrow : ((i / c.perRow + 1 : ℕ) : ℝ) ≤ c.rows n := Nat.cast_le.2 (c.div_lt_rows hi)
  have hle := mul_le_mul_of_nonneg_right hrow (h.cellHeight_pos n).le
  rw [cellHeight_mul] at hle
  rw [cell_bottom, titleRect_real]
  dsimp only
  linarith

theorem HasRoom.border_within (h : c.HasRoom) : c.border.Within ⟨0, 0, c.width, c.height⟩ := by
  rw [border_real]
  constructor <;> simp only [Rect.right, Rect.bottom] <;> linarith [h.margin_nonneg]

theorem HasRoom.titleRect_within (h : c.HasRoom) : c.titleRect.Within c.border := by
  rw [titleRect_real, border_real]
  constructor <;> simp only [Rect.right, Rect.bottom] <;> linarith [h.lt_height, h.titleBlock_nonneg]

theorem HasRoom.cell_within (h : c.HasRoom) (hi : i < n) : (c.cell n i).Within c.border := by
  have hcolumn : ((i % c.perRow + 1 : ℕ) : ℝ) ≤ c.perRow := Nat.cast_le.2 (Nat.mod_lt i c.perRow_pos)
  have hle := mul_le_mul_of_nonneg_right hcolumn h.cellWidth_pos.le
  rw [cellWidth_mul] at hle
  have hwidth := h.cellWidth_pos
  have hheight := h.cellHeight_pos n
  constructor
  case left =>
    rw [cell_x, border_real]
    dsimp only
    have : 0 ≤ (i % c.perRow : ℕ) * c.cellWidth := by positivity
    linarith
  case right =>
    rw [cell_right, border_real, Rect.right]
    dsimp only
    linarith
  case top =>
    rw [cell_y, border_real]
    dsimp only
    have : 0 ≤ (i / c.perRow : ℕ) * c.cellHeight n := by positivity
    linarith
  case bottom =>
    -- the title block is between the frames and the bottom edge of the border
    refine (h.cell_bottom_le hi).trans ?_
    rw [titleRect_real, border_real, Rect.bottom]
    dsimp only
    linarith [h.titleBlock_nonneg]

theorem HasRoom.cell_right_le (h : c.HasRoom) (hij : i % c.perRow < j % c.perRow) :
    (c.cell n i).right ≤ (c.cell n j).x := by
  have hcolumn : ((i % c.perRow + 1 : ℕ) : ℝ) ≤ (j % c.perRow : ℕ) := Nat.cast_le.2 hij
  rw [cell_right, cell_x]
  exact add_le_add_right (mul_le_mul_of_nonneg_right hcolumn h.cellWidth_pos.le) _

theorem HasRoom.cell_bottom_le_y (h : c.HasRoom) (hij : i / c.perRow < j / c.perRow) :
    (c.cell n i).bottom ≤ (c.cell n j).y := by
  have hrow : ((i / c.perRow + 1 : ℕ) : ℝ) ≤ (j / c.perRow : ℕ) := Nat.cast_le.2 hij
  rw [cell_bottom, cell_y]
  exact add_le_add_right (mul_le_mul_of_nonneg_right hrow (h.cellHeight_pos n).le) _

/-- Two cells are in different rows, or in different columns. -/
theorem HasRoom.disjoint_cells (h : c.HasRoom) (hij : i ≠ j) :
    Disjoint (c.cell n i).interior (c.cell n j).interior := by
  rcases lt_trichotomy (i / c.perRow) (j / c.perRow) with hrow | hrow | hrow
  · exact Rect.disjoint_interior_of_bottom_le (h.cell_bottom_le_y hrow)
  · have hcolumn : i % c.perRow ≠ j % c.perRow := by
      intro hcolumn
      apply hij
      rw [← Nat.div_add_mod i c.perRow, ← Nat.div_add_mod j c.perRow, hrow, hcolumn]
    rcases Nat.lt_or_gt_of_ne hcolumn with hlt | hlt
    · exact Rect.disjoint_interior_of_right_le (h.cell_right_le hlt)
    · exact (Rect.disjoint_interior_of_right_le (h.cell_right_le hlt)).symm
  · exact (Rect.disjoint_interior_of_bottom_le (h.cell_bottom_le_y hrow)).symm

theorem HasRoom.cell_y_eq_iff (h : c.HasRoom) : (c.cell n i).y = (c.cell n j).y ↔ i / c.perRow = j / c.perRow := by
  rw [cell_y, cell_y, add_right_inj, mul_left_inj' (h.cellHeight_pos n).ne', Nat.cast_inj]

end SheetConfig

/-! ### Layouts -/

namespace Layout

/-- The top edges of the frames, one for each row. -/
def tops (l : Layout ℝ) : Set ℝ := {y | ∃ f ∈ l.frames, f.rect.y = y}

/-- The numbers of the frames with the given top edge. -/
def row (l : Layout ℝ) (y : ℝ) : Set ℕ := {i | ∃ f, l.frames[i]? = some f ∧ f.rect.y = y}

/-- Everything on a sheet with `n` views is in its place. -/
structure IsTidy (c : SheetConfig ℝ) (n : Nat) (l : Layout ℝ) : Prop where
  /-- The border lies on the sheet. -/
  border : l.border.Within ⟨0, 0, c.width, c.height⟩
  /-- The title block lies in the border. -/
  titleBlock : l.titleBlock.Within l.border
  /-- It is as wide as the border, and ends with it. -/
  titleBlock_along : l.titleBlock.x = l.border.x ∧ l.titleBlock.width = l.border.width ∧
    l.titleBlock.bottom = l.border.bottom
  /-- There is a frame for every view. -/
  length : l.frames.length = n
  size : ∀ f ∈ l.frames, 0 < f.rect.width ∧ 0 < f.rect.height
  within : ∀ f ∈ l.frames, f.rect.Within l.border
  /-- The frames are above the title block. -/
  above : ∀ f ∈ l.frames, f.rect.bottom ≤ l.titleBlock.y
  apart : l.frames.Pairwise fun f g => Disjoint f.rect.interior g.rect.interior
  /-- The rows are as few as can hold all views. -/
  rows : IsLeast {r | n ≤ r * max c.columns 1} l.tops.ncard
  /-- No row holds more views than it has columns. -/
  columns : ∀ y, (l.row y).ncard ≤ max c.columns 1
  /-- The rows share the room above the title block. -/
  height : ∀ f ∈ l.frames, l.tops.ncard * f.rect.height = l.titleBlock.y - l.border.y

end Layout

namespace SheetConfig

section

variable {K : Type} [Scalar K] [DecimalText K] (c : SheetConfig K) (title template : String)
  (views : List (PlacedView K))

theorem getElem?_frames (i : Nat) :
    (c.layout title template views).frames[i]? = views[i]?.map (c.frame views.length i) := by
  rw [layout, List.getElem?_mapIdx]

theorem length_frames : (c.layout title template views).frames.length = views.length := by
  rw [layout, List.length_mapIdx]

/-- The rectangles of frames are the first cells. -/
theorem exists_cell_of_mem_frames {f : Frame K} (hf : f ∈ (c.layout title template views).frames) :
    ∃ i < views.length, f.rect = c.cell views.length i := by
  obtain ⟨i, hi⟩ := List.mem_iff_getElem?.1 hf
  rw [getElem?_frames, Option.map_eq_some_iff] at hi
  obtain ⟨v, hv, rfl⟩ := hi
  exact ⟨i, (List.getElem?_eq_some_iff.1 hv).1, rfl⟩

end

section

variable {c : SheetConfig ℝ} [DecimalText ℝ] {title template : String} {views : List (PlacedView ℝ)}

theorem forall_mem_frames (P : Rect ℝ → Prop) (h : ∀ i < views.length, P (c.cell views.length i)) :
    ∀ f ∈ (c.layout title template views).frames, P f.rect := by
  intro f hf
  obtain ⟨i, hi, hrect⟩ := exists_cell_of_mem_frames c title template views hf
  rw [hrect]
  exact h i hi

theorem HasRoom.pairwise_frames (h : c.HasRoom) :
    (c.layout title template views).frames.Pairwise fun f g => Disjoint f.rect.interior g.rect.interior := by
  rw [List.pairwise_iff_getElem]
  intro i j hi hj hij
  simp only [layout, List.getElem_mapIdx]
  exact h.disjoint_cells hij.ne

theorem tops_layout : (c.layout title template views).tops =
    (fun r : ℕ => c.margin + r * c.cellHeight views.length) '' (Finset.range (c.rowsFor views.length)) := by
  ext y
  simp only [Layout.tops, Set.mem_ofPred_eq, Set.mem_image, Finset.coe_range, Set.mem_Iio]
  constructor
  · rintro ⟨f, hf, rfl⟩
    obtain ⟨i, hi, hrect⟩ := exists_cell_of_mem_frames c title template views hf
    exact ⟨i / c.perRow, c.exists_div_eq_iff.1 ⟨i, hi, rfl⟩, by rw [hrect, cell_y]⟩
  · rintro ⟨r, hr, rfl⟩
    obtain ⟨i, hi, rfl⟩ := c.exists_div_eq_iff.2 hr
    have hframe : (c.layout title template views).frames[i]? = some (c.frame views.length i views[i]) := by
      rw [getElem?_frames, List.getElem?_eq_getElem hi]
      rfl
    exact ⟨_, List.mem_of_getElem? hframe, cell_y c views.length i⟩

theorem HasRoom.ncard_tops (h : c.HasRoom) :
    (c.layout title template views).tops.ncard = c.rowsFor views.length := by
  have hinjective : Function.Injective fun r : ℕ => c.margin + r * c.cellHeight views.length := by
    intro r r' hr
    have hmul := mul_right_cancel₀ (h.cellHeight_pos views.length).ne' (add_left_cancel hr)
    exact Nat.cast_injective hmul
  rw [tops_layout, Set.ncard_image_of_injective _ hinjective, Set.ncard_coe_finset, Finset.card_range]

theorem HasRoom.ncard_row_le (h : c.HasRoom) (y : ℝ) :
    ((c.layout title template views).row y).ncard ≤ max c.columns 1 := by
  have hrow {i : Nat} (hi : i ∈ (c.layout title template views).row y) : (c.cell views.length i).y = y := by
    obtain ⟨f, hf, hy⟩ := hi
    rw [getElem?_frames, Option.map_eq_some_iff] at hf
    obtain ⟨v, -, rfl⟩ := hf
    exact hy
  rcases Set.eq_empty_or_nonempty ((c.layout title template views).row y) with hempty | ⟨first, hfirst⟩
  · rw [hempty, Set.ncard_empty]
    exact Nat.zero_le _
  · -- all numbers of the row have the same quotient, so they are among as many as there are columns
    have hsubset : (c.layout title template views).row y ⊆
        Finset.Ico (first / c.perRow * c.perRow) (first / c.perRow * c.perRow + c.perRow) := by
      intro i hi
      have hdiv : i / c.perRow = first / c.perRow := h.cell_y_eq_iff.1 ((hrow hi).trans (hrow hfirst).symm)
      rw [Finset.coe_Ico, Set.mem_Ico, ← hdiv]
      exact ⟨Nat.div_mul_le_self i c.perRow, Nat.lt_div_mul_add c.perRow_pos⟩
    calc ((c.layout title template views).row y).ncard
        ≤ (Finset.Ico (first / c.perRow * c.perRow) (first / c.perRow * c.perRow + c.perRow) : Set ℕ).ncard :=
          Set.ncard_le_ncard hsubset (Finset.finite_toSet _)
      _ = c.perRow := by rw [Set.ncard_coe_finset, Nat.card_Ico, Nat.add_sub_cancel_left]
      _ = max c.columns 1 := rfl

/-- A sheet with room for a frame shows any number of views, each in a cell of its own, in as few rows as
possible. -/
theorem isTidy_layout (h : c.HasRoom) (title template : String) (views : List (PlacedView ℝ)) :
    (c.layout title template views).IsTidy c views.length := by
  constructor
  case border => exact h.border_within
  case titleBlock => exact h.titleRect_within
  case titleBlock_along => exact ⟨rfl, rfl, c.titleRect_bottom⟩
  case length => exact length_frames c title template views
  case size =>
    exact forall_mem_frames (fun r => 0 < r.width ∧ 0 < r.height) fun i hi => ⟨h.cellWidth_pos, h.cellHeight_pos _⟩
  case within => exact forall_mem_frames (·.Within c.border) fun i hi => h.cell_within hi
  case above => exact forall_mem_frames (·.bottom ≤ c.titleRect.y) fun i hi => h.cell_bottom_le hi
  case apart => exact h.pairwise_frames
  case rows =>
    rw [h.ncard_tops]
    exact c.isLeast_rowsFor views.length
  case columns => exact h.ncard_row_le
  case height =>
    refine forall_mem_frames (fun r => _ * r.height = c.titleRect.y - c.border.y) fun i hi => ?_
    -- there is a view, so the rows are not counted as one without any
    have hrows : c.rowsFor views.length = c.rows views.length := by
      rw [rows_eq, max_eq_left]
      exact Nat.one_le_of_lt (c.exists_div_eq_iff.1 ⟨i, hi, rfl⟩)
    rw [h.ncard_tops, hrows]
    exact (c.cellHeight_mul views.length).trans c.titleRect_y_sub.symm

end

theorem isTidy_layout_threeViews : ∃ _ : DecimalText ℝ,
    let c : SheetConfig ℝ := ⟨297, 210, 10, 20, 2, 7 / 2⟩
    let view (name : String) : PlacedView ℝ := ⟨⟨name⟩, ⟨name, ⟨0, 0, 1⟩, none, none⟩, []⟩
    c.HasRoom ∧ (c.layout "Plate" "A4" [view "top", view "front", view "side"]).IsTidy c 3 := by
  let text : DecimalText ℝ := ⟨fun _ => ""⟩
  refine ⟨text, ?_⟩
  intro c view
  have hroom : c.HasRoom := by
    constructor <;> norm_num [c]
  exact ⟨hroom, isTidy_layout hroom "Plate" "A4" [view "top", view "front", view "side"]⟩

end SheetConfig

end SolidDrawing
