import SolidDrawing.Proofs.Histories
import SolidDrawing.Proofs.RenderCalls
import SolidDrawing.Sheet.Layout

/-!
# What events tell about a page

The events of a renderer tell which pages there are (`IsOpen`), which of them were laid out after they were last changed
(`IsLaidOut`), and what has been put on them (`viewsOn`). An event that does not change a page leaves what is on it.
-/

namespace SolidDrawing.RenderEvent

variable {K : Type}

def isShutdown : RenderEvent K → Bool
  | shutdown => true
  | _ => false

/-- The call made the page, or put something on it. -/
inductive Changed (page : PageId) : RenderEvent K → Prop
  | createPage (title template : String) : Changed page (createPage title template (.ok page))
  | addBody (solid : SolidRef) (body : BodyId) : Changed page (addBody page solid (.ok body))
  | addView (body : BodyId) (request : ViewRequest K) (view : ViewId) :
    Changed page (addView page body request (.ok view))
  | addDimension (view : ViewId) (d : DimensionRequest) : Changed page (addDimension page view d (.ok ()))

/-- The call placed the view, or attached a dimension to it. -/
inductive Shown (view : ViewId) : RenderEvent K → Prop
  | addView (page : PageId) (body : BodyId) (request : ViewRequest K) :
    Shown view (addView page body request (.ok view))
  | addDimension (page : PageId) (d : DimensionRequest) : Shown view (addDimension page view d (.ok ()))

/-- The page was made, and the renderer not shut down since then. -/
def IsOpen (page : PageId) (evs : List (RenderEvent K)) : Prop :=
  Since (MadePage page) (fun ev => ev.isShutdown = false) evs

/-- The page was laid out, and not changed since then. -/
def IsLaidOut (page : PageId) (evs : List (RenderEvent K)) : Prop :=
  Since (fun ev => ev = recompute page (.ok ())) (fun ev => ¬ ev.Changed page) evs

/-- The view that the call placed on the page. -/
def placed? (page : PageId) : RenderEvent K → Option (ViewId × ViewRequest K)
  | addView id _ request (.ok view) => if id = page then some (view, request) else none
  | _ => none

/-- The dimension that the call attached to the view on the page. -/
def attached? (page : PageId) (view : ViewId) : RenderEvent K → Option DimensionRequest
  | addDimension id v d (.ok _) => if id = page ∧ v = view then some d else none
  | _ => none

/-- The views that were placed on the page, in order, each with the dimensions that were attached to it, in order. -/
def viewsOn (page : PageId) (evs : List (RenderEvent K)) : List (PlacedView K) :=
  (evs.filterMap (placed? page)).map fun v => ⟨v.1, v.2, evs.filterMap (attached? page v.1)⟩

variable {page : PageId} {evs : List (RenderEvent K)} {ev : RenderEvent K}

theorem Changed.of_madePage (h : ev.MadePage page) : ev.Changed page := by
  obtain ⟨title, template, rfl⟩ := h
  exact .createPage title template

theorem Changed.eq_of_createPage {title template : String} {id : PageId}
    (h : (RenderEvent.createPage title template (.ok id) : RenderEvent K).Changed page) : id = page := by
  cases h
  rfl

theorem placed?_eq_none (h : ¬ ev.Changed page) : ev.placed? page = none := by
  cases ev with
  | addView id body request answer =>
    cases answer with
    | error e => rfl
    | ok view =>
      refine if_neg fun hid => h ?_
      subst hid
      exact .addView body request view
  | _ => rfl

theorem attached?_eq_none (h : ¬ ev.Changed page) (view : ViewId) : ev.attached? page view = none := by
  cases ev with
  | addDimension id v d answer =>
    cases answer with
    | error e => rfl
    | ok u =>
      refine if_neg fun ⟨hid, _⟩ => h ?_
      subst hid
      exact .addDimension v d
  | _ => rfl

theorem shown_of_placed? {view : ViewId} {request : ViewRequest K} (h : ev.placed? page = some (view, request)) :
    ev.Shown view := by
  cases ev with
  | addView id body request' answer =>
    cases answer with
    | error e => cases h
    | ok view' =>
      rw [placed?, Option.ite_none_right_eq_some] at h
      obtain ⟨-, heq⟩ := h
      cases heq
      exact .addView id body request
  | _ => cases h

theorem Shown.exists_changed {view : ViewId} (h : ev.Shown view) : ∃ page, ev.Changed page := by
  cases h with
  | addView page body request => exact ⟨page, .addView body request view⟩
  | addDimension page d => exact ⟨page, .addDimension view d⟩

theorem attached?_eq_none_of_not_shown {view : ViewId} (h : ¬ ev.Shown view) : ev.attached? page view = none := by
  cases ev with
  | addDimension id v d answer =>
    cases answer with
    | error e => rfl
    | ok u =>
      refine if_neg fun ⟨_, hv⟩ => h ?_
      subst hv
      exact .addDimension id d
  | _ => rfl

theorem exists_shown_of_mem_viewsOn {v : PlacedView K} (h : v ∈ viewsOn page evs) : ∃ ev ∈ evs, ev.Shown v.id := by
  obtain ⟨⟨view, request⟩, hplaced, rfl⟩ := List.mem_map.1 h
  obtain ⟨ev, hev, hplaced⟩ := List.mem_filterMap.1 hplaced
  exact ⟨ev, hev, shown_of_placed? hplaced⟩

theorem viewsOn_eq_nil (h : ∀ ev ∈ evs, ¬ ev.Changed page) : viewsOn page evs = [] := by
  rw [viewsOn, List.filterMap_eq_nil_iff.2 fun ev hev => placed?_eq_none (h ev hev), List.map_nil]

/-! ### One more event -/

theorem isOpen_append_singleton :
    IsOpen page (evs ++ [ev]) ↔ ev.MadePage page ∨ ev.isShutdown = false ∧ IsOpen page evs :=
  since_append_singleton

theorem isOpen_append_iff (hmade : ¬ ev.MadePage page) (hrunning : ev.isShutdown = false) :
    IsOpen page (evs ++ [ev]) ↔ IsOpen page evs := by
  simp [isOpen_append_singleton, hmade, hrunning]

theorem isLaidOut_append_singleton :
    IsLaidOut page (evs ++ [ev]) ↔ ev = recompute page (.ok ()) ∨ ¬ ev.Changed page ∧ IsLaidOut page evs :=
  since_append_singleton

theorem not_isLaidOut_of_changed (h : ev.Changed page) : ¬ IsLaidOut page (evs ++ [ev]) := by
  rw [isLaidOut_append_singleton]
  rintro (rfl | ⟨h', -⟩)
  · cases h
  · exact h' h

theorem isLaidOut_append_iff (hchanged : ¬ ev.Changed page) (hlaid : ev ≠ recompute page (.ok ())) :
    IsLaidOut page (evs ++ [ev]) ↔ IsLaidOut page evs := by
  simp [isLaidOut_append_singleton, hchanged, hlaid]

private theorem filterMap_append_singleton {α β : Type} (f : α → Option β) (as : List α) (a : α) :
    (as ++ [a]).filterMap f = as.filterMap f ++ (f a).toList := by
  rw [List.filterMap_append]
  cases h : f a <;> simp [h]

/-- What places no view may attach a dimension to the views there are. -/
theorem viewsOn_append (h : ev.placed? page = none) : viewsOn page (evs ++ [ev]) =
    (viewsOn page evs).map fun v => { v with dimensions := v.dimensions ++ (ev.attached? page v.id).toList } := by
  simp only [viewsOn, filterMap_append_singleton, h, Option.toList_none, List.append_nil, List.map_map,
    Function.comp_def]

theorem viewsOn_append_eq (hplaced : ev.placed? page = none) (hattached : ∀ view, ev.attached? page view = none) :
    viewsOn page (evs ++ [ev]) = viewsOn page evs := by
  simp [viewsOn_append hplaced, hattached]

/-- What does not change a page leaves what is on it. -/
theorem viewsOn_append_of_not_changed (h : ¬ ev.Changed page) : viewsOn page (evs ++ [ev]) = viewsOn page evs :=
  viewsOn_append_eq (placed?_eq_none h) (attached?_eq_none h)

theorem viewsOn_append_addDimension (view : ViewId) (d : DimensionRequest) :
    viewsOn page (evs ++ [addDimension page view d (.ok ())]) =
      (viewsOn page evs).map fun v => if v.id == view then { v with dimensions := v.dimensions ++ [d] } else v := by
  rw [viewsOn_append rfl]
  refine List.map_congr_left fun v _ => ?_
  by_cases hv : v.id = view
  · simp [attached?, hv]
  · simp [attached?, hv, Ne.symm hv]

/-- A view that was not shown before has no dimensions. -/
theorem viewsOn_append_addView (body : BodyId) (request : ViewRequest K) {view : ViewId}
    (hview : ∀ ev ∈ evs, ¬ ev.Shown view) :
    viewsOn page (evs ++ [addView page body request (.ok view)]) = viewsOn page evs ++ [⟨view, request, []⟩] := by
  have hplaced : (addView page body request (.ok view)).placed? page = some (view, request) := if_pos rfl
  have hattached (view' : ViewId) : (addView page body request (.ok view)).attached? page view' = none := rfl
  have hdimensions : evs.filterMap (attached? page view) = [] :=
    List.filterMap_eq_nil_iff.2 fun ev hev => attached?_eq_none_of_not_shown (hview ev hev)
  simp only [viewsOn, filterMap_append_singleton, hplaced, hattached, Option.toList_some, Option.toList_none,
    List.append_nil, List.map_append, List.map_cons, List.map_nil, hdimensions]

end SolidDrawing.RenderEvent
