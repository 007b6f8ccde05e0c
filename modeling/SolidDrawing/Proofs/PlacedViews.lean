import Mathlib.Data.List.Perm.Basic
import Mathlib.Logic.Function.Basic
import SolidDrawing.Drawing.Project
import SolidDrawing.Sheet.Layout

/-!
# Views with their dimensions

Several views can have one id. A dimension belongs to the last view of the id that it names (`dimensionsAt`), which is
the view that its id leads to among the handles (`handle_eq_iff`). So the views have each dimension of a drawing once,
if there is a view for each of them (`flatten_dimensionsAt_perm`).
-/

namespace SolidDrawing

variable {K : Type}

/-- The dimensions of view number `i`: those that name its id, unless a later view has the same id. -/
def dimensionsAt (views : List (ViewSpec K)) (dimensions : List DimensionSpec) (i : Nat) (v : ViewSpec K) :
    List DimensionSpec :=
  if v.id ∈ (views.drop (i + 1)).map (·.id) then [] else dimensions.filter fun d => d.viewId == v.id

/-- The views with their dimensions, under the given names. -/
def placedViews (names : Nat → ViewId) (views : List (ViewSpec K)) (dimensions : List DimensionSpec) :
    List (PlacedView K) :=
  views.mapIdx fun i v => ⟨names i, v.request, (dimensionsAt views dimensions i v).map DimensionSpec.request⟩

/-- The names of views under their ids, that of the last view first. -/
def handles (names : Nat → ViewId) (views : List (ViewSpec K)) : List (String × ViewId) :=
  (views.mapIdx fun i v => (v.id, names i)).reverse

@[simp] theorem length_placedViews (names : Nat → ViewId) (views : List (ViewSpec K))
    (dimensions : List DimensionSpec) : (placedViews names views dimensions).length = views.length := by
  simp [placedViews]

theorem placedViews_cons_nil (names : Nat → ViewId) (v : ViewSpec K) (views : List (ViewSpec K)) :
    placedViews names (v :: views) [] = ⟨names 0, v.request, []⟩ :: placedViews (fun i => names (i + 1)) views [] := by
  simp [placedViews, dimensionsAt, List.mapIdx_cons]

/-! ### Handles -/

theorem handles_cons (names : Nat → ViewId) (v : ViewSpec K) (views : List (ViewSpec K)) :
    handles names (v :: views) = handles (fun i => names (i + 1)) views ++ [(v.id, names 0)] := by
  simp [handles, List.mapIdx_cons]

theorem exists_of_mem_handles {names : Nat → ViewId} {views : List (ViewSpec K)} {entry : String × ViewId}
    (h : entry ∈ handles names views) : ∃ i, entry.2 = names i := by
  rw [handles, List.mem_reverse, List.mem_mapIdx] at h
  obtain ⟨i, hi, rfl⟩ := h
  exact ⟨i, rfl⟩

theorem map_fst_handles (names : Nat → ViewId) (views : List (ViewSpec K)) :
    (handles names views).map Prod.fst = (views.map (·.id)).reverse := by
  induction views generalizing names with
  | nil => rfl
  | cons v views ih => simp [handles_cons, ih]

theorem find?_handles_eq_none (names : Nat → ViewId) (views : List (ViewSpec K)) (id : String) :
    (handles names views).find? (fun p => p.1 == id) = none ↔ id ∉ views.map (·.id) := by
  rw [← List.mem_reverse, ← map_fst_handles names, List.find?_eq_none, List.mem_map, not_exists]
  refine forall_congr' fun entry => ?_
  rw [not_and, beq_iff_eq]

/-- The handle of an id is the name of the last view that has it. -/
theorem handle_eq_iff {names : Nat → ViewId} (hnames : Function.Injective names) {views : List (ViewSpec K)}
    {id : String} {entry : String × ViewId} (hfind : (handles names views).find? (fun p => p.1 == id) = some entry)
    {i : Nat} {v : ViewSpec K} (hv : views[i]? = some v) :
    names i = entry.2 ↔ v.id = id ∧ id ∉ (views.drop (i + 1)).map (·.id) := by
  induction views generalizing names i with
  | nil => simp at hv
  | cons first rest ih =>
    have hshift : Function.Injective fun i => names (i + 1) := fun _ _ h => Nat.succ.inj (hnames h)
    rw [handles_cons, List.find?_append] at hfind
    have hids := find?_handles_eq_none (fun i => names (i + 1)) rest id
    cases hrest : (handles (fun i => names (i + 1)) rest).find? fun p => p.1 == id with
    | some later =>
      rw [hrest] at hfind
      obtain rfl : later = entry := Option.some.inj hfind
      cases i with
      | zero =>
        -- the handle is that of a view behind the first one
        obtain ⟨j, hj⟩ := exists_of_mem_handles (List.mem_of_find?_eq_some hrest)
        have hmem : id ∈ rest.map (·.id) := by
          by_contra hno
          rw [hids.2 hno] at hrest
          cases hrest
        have hne : names 0 ≠ later.2 := by
          rw [hj]
          exact fun h => absurd (hnames h) (by omega)
        simp [hne, hmem]
      | succ i => exact ih hshift hrest hv
    | none =>
      have hnot : id ∉ rest.map (·.id) := hids.1 hrest
      rw [hrest, Option.none_or, List.find?_singleton] at hfind
      have hid : first.id = id := by
        by_contra hno
        simp [hno] at hfind
      obtain rfl : (first.id, names 0) = entry := by simpa [hid] using hfind
      cases i with
      | zero =>
        obtain rfl : first = v := by simpa using hv
        simp [hid, hnot]
      | succ i =>
        have hmem : v.id ∈ rest.map (·.id) := List.mem_map_of_mem (List.mem_of_getElem? hv)
        have hne : names (i + 1) ≠ names 0 := fun h => absurd (hnames h) (by omega)
        refine iff_of_false hne ?_
        rintro ⟨rfl, -⟩
        exact hnot hmem

/-! ### One more dimension -/

private theorem dimensionsAt_append_singleton (views : List (ViewSpec K)) (dimensions : List DimensionSpec)
    (d : DimensionSpec) (i : Nat) (v : ViewSpec K) :
    dimensionsAt views (dimensions ++ [d]) i v = dimensionsAt views dimensions i v ++
      if v.id = d.viewId ∧ d.viewId ∉ (views.drop (i + 1)).map (·.id) then [d] else [] := by
  unfold dimensionsAt
  by_cases hid : d.viewId = v.id
  · rw [hid]
    split <;> simp_all
  · have hno : ¬ (v.id = d.viewId ∧ d.viewId ∉ (views.drop (i + 1)).map (·.id)) := fun h => hid h.1.symm
    have hlast : [d].filter (fun d => d.viewId == v.id) = [] := by simpa using hid
    rw [if_neg hno, List.append_nil, List.filter_append, hlast, List.append_nil]

/-- A dimension that is put behind those of the view that its id leads to is put behind all dimensions. -/
theorem placedViews_append_singleton {names : Nat → ViewId} (hnames : Function.Injective names)
    (views : List (ViewSpec K)) (dimensions : List DimensionSpec) {d : DimensionSpec} {entry : String × ViewId}
    (hfind : (handles names views).find? (fun p => p.1 == d.viewId) = some entry) :
    ((placedViews names views dimensions).map fun v =>
      if v.id == entry.2 then { v with dimensions := v.dimensions ++ [d.request] } else v) =
      placedViews names views (dimensions ++ [d]) := by
  refine List.ext_getElem? fun i => ?_
  rw [placedViews, placedViews, List.getElem?_map, List.getElem?_mapIdx, List.getElem?_mapIdx]
  cases hv : views[i]? with
  | none => rfl
  | some v =>
    simp only [Option.map_some, dimensionsAt_append_singleton, ← handle_eq_iff hnames hfind hv, beq_iff_eq]
    split <;> simp

/-- An id that a view has leads to a view. -/
theorem exists_handle (names : Nat → ViewId) {views : List (ViewSpec K)} (dimensions : List DimensionSpec)
    {id : String} (h : id ∈ views.map (·.id)) : ∃ entry,
      (handles names views).find? (fun p => p.1 == id) = some entry ∧
      ∃ v ∈ placedViews names views dimensions, v.id = entry.2 := by
  obtain ⟨entry, hfind⟩ : ∃ entry, (handles names views).find? (fun p => p.1 == id) = some entry := by
    by_contra hno
    simp only [not_exists, ← Option.eq_none_iff_forall_ne_some] at hno
    exact (find?_handles_eq_none names views id).1 hno h
  have hmem : entry ∈ handles names views := List.mem_of_find?_eq_some hfind
  rw [handles, List.mem_reverse, List.mem_mapIdx] at hmem
  obtain ⟨i, hi, rfl⟩ := hmem
  exact ⟨_, hfind, _, List.mem_mapIdx.2 ⟨i, hi, rfl⟩, rfl⟩

/-! ### All dimensions -/

private theorem mapIdx_dimensionsAt_cons (v : ViewSpec K) (views : List (ViewSpec K))
    (dimensions : List DimensionSpec) : (v :: views).mapIdx (dimensionsAt (v :: views) dimensions) =
      dimensionsAt (v :: views) dimensions 0 v :: views.mapIdx (dimensionsAt views dimensions) := by
  rw [List.mapIdx_cons]
  rfl

/-- Dimensions that name none of the views belong to none of them. -/
private theorem mapIdx_dimensionsAt_filter {id : String} {views : List (ViewSpec K)} (h : id ∉ views.map (·.id))
    (dimensions : List DimensionSpec) :
    views.mapIdx (dimensionsAt views (dimensions.filter fun d => !(d.viewId == id))) =
      views.mapIdx (dimensionsAt views dimensions) := by
  refine List.ext_getElem? fun i => ?_
  rw [List.getElem?_mapIdx, List.getElem?_mapIdx]
  cases hv : views[i]? with
  | none => rfl
  | some v =>
    have hne : v.id ≠ id := by
      rintro rfl
      exact h (List.mem_map_of_mem (List.mem_of_getElem? hv))
    have hkeep : ∀ d ∈ dimensions, ((d.viewId == v.id) && !(d.viewId == id)) = (d.viewId == v.id) := by
      intro d _
      by_cases hd : d.viewId = v.id <;> simp [hd, hne]
    simp only [Option.map_some, dimensionsAt, List.filter_filter, List.filter_congr hkeep]

/-- Every dimension belongs to one view, if there is a view for each of them. -/
theorem flatten_dimensionsAt_perm {views : List (ViewSpec K)} {dimensions : List DimensionSpec}
    (h : ∀ d ∈ dimensions, d.viewId ∈ views.map (·.id)) :
    (views.mapIdx (dimensionsAt views dimensions)).flatten.Perm dimensions := by
  induction views generalizing dimensions with
  | nil =>
    have hnil : dimensions = [] := List.eq_nil_iff_forall_not_mem.2 fun d hd => by simpa using h d hd
    simp [hnil]
  | cons v views ih =>
    rw [mapIdx_dimensionsAt_cons, List.flatten_cons]
    by_cases hv : v.id ∈ views.map (·.id)
    · have hnone : dimensionsAt (v :: views) dimensions 0 v = [] := if_pos hv
      rw [hnone, List.nil_append]
      refine ih fun d hd => ?_
      rcases List.mem_cons.1 (h d hd) with hid | hid
      · rw [hid]
        exact hv
      · exact hid
    · have hall : dimensionsAt (v :: views) dimensions 0 v = dimensions.filter fun d => d.viewId == v.id := if_neg hv
      rw [hall, ← mapIdx_dimensionsAt_filter hv]
      refine List.Perm.trans (List.Perm.append_left _ (ih ?_)) (List.filter_append_perm _ dimensions)
      intro d hd
      obtain ⟨hmem, hid⟩ := List.mem_filter.1 hd
      rcases List.mem_cons.1 (h d hmem) with heq | hlater
      · simp [heq] at hid
      · exact hlater

end SolidDrawing
