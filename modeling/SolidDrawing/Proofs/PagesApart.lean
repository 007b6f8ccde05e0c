import SolidDrawing.Proofs.DrawnPages

/-!
# Pages that are kept apart

A call to the renderer of the sheets either fails, and then it changes nothing (`Sheets.step_eq_of_error`), or it
changes the one page that it is about (`Sheets.page_step`). Every body and every view is given out once, for one page
(`Sheets.Owned`), so no other page knows it. Together these facts say what any calls leave alone, whatever was called
before (`Sheets.apart_history`).
-/

namespace SolidDrawing

/-- The page that was made before, and that the call is about. -/
def RenderCall.page? {K : Type} : RenderCall K → Option PageId
  | createPage _ _ | shutdown => none
  | addBody page _ | addView page _ _ | addDimension page _ _ => some page
  | recompute page | exportPdf page _ | exportSvg page _ => some page

namespace RenderEvent

variable {K : Type}

/-- The call put the body on the page. -/
def GaveBody (page : PageId) (body : BodyId) (ev : RenderEvent K) : Prop := ∃ solid, ev = addBody page solid (.ok body)

/-- The call put the view on the page. -/
def GaveView (page : PageId) (view : ViewId) (ev : RenderEvent K) : Prop :=
  ∃ body request, ev = addView page body request (.ok view)

variable {page : PageId} {evs : List (RenderEvent K)} {ev : RenderEvent K}

theorem GaveView.changed {view : ViewId} (h : ev.GaveView page view) : ev.Changed page := by
  obtain ⟨body, request, rfl⟩ := h
  exact .addView body request view

theorem gaveView_of_placed? {view : ViewId} {request : ViewRequest K} (h : ev.placed? page = some (view, request)) :
    ev.GaveView page view := by
  cases ev with
  | addView id body request' answer =>
    cases answer with
    | error e => cases h
    | ok view' =>
      rw [placed?, Option.ite_none_right_eq_some] at h
      obtain ⟨rfl, heq⟩ := h
      cases heq
      exact ⟨body, request, rfl⟩
  | _ => cases h

/-- A view on a page was put there by a call. -/
theorem exists_gaveView_of_mem_viewsOn {v : PlacedView K} (h : v ∈ viewsOn page evs) :
    ∃ ev ∈ evs, ev.GaveView page v.id := by
  obtain ⟨⟨view, request⟩, hplaced, rfl⟩ := List.mem_map.1 h
  obtain ⟨ev, hev, hplaced⟩ := List.mem_filterMap.1 hplaced
  exact ⟨ev, hev, gaveView_of_placed? hplaced⟩

end RenderEvent

open RenderEvent (IsOpen)

namespace Sheets

variable {W : Type} (fs : FileSystem (StateM W))

/-! ### One call and the other pages -/

theorem page_setPage_of_ne {K : Type} (s : Sheets K) {id other : PageId} (h : other ≠ id) (page : Page K) :
    (s.setPage id page).page other = s.page other := by
  rw [page_setPage]
  cases s.page other with
  | error e => rfl
  | ok old => simp [Except.map, h]

/-- The event of a call tells which call it was. -/
theorem call_step (s : Sheets Float) (w : W) (call : RenderCall Float) : (step fs (s, w) call).1.call = call := by
  have hexport (format : SheetFormat) (id : PageId) (path : String) :
      (step fs (s, w) (format.call id path)).1.call = format.call id path := by
    rw [step_export]
    cases s.exportable id <;> cases format <;> rfl
  cases call with
  | createPage | shutdown => rfl
  | addBody => rw [step_addBody]; rfl
  | addView => rw [step_addView]; rfl
  | addDimension => rw [step_addDimension]; rfl
  | recompute => rw [step_recompute]; rfl
  | exportPdf id path => exact hexport .pdf id path
  | exportSvg id path => exact hexport .svg id path

/-- Pages are written as they are. -/
theorem sheets_step_export (s : Sheets Float) (w : W) (format : SheetFormat) (id : PageId) (path : String) :
    (step fs (s, w) (format.call id path)).2.1 = s := by
  rw [step_export]
  cases s.exportable id <;> rfl

section

variable {s : Sheets Float} {id : PageId} {p p' : Page Float} {ev : RenderEvent Float} {views : Nat}

theorem Edit.error?_eq_none (h : Edit s id p ev p' views) : ev.error? = none := by
  cases h <;> rfl

theorem Edit.page?_call (h : Edit s id p ev p' views) : ev.call.page? = some id := by
  cases h <;> rfl

end

/-- A call that fails leaves all pages as they were. -/
theorem step_eq_of_error {s : Sheets Float} {w : W} {call : RenderCall Float} {e : RenderError}
    (h : (step fs (s, w) call).1.error? = some e) : (step fs (s, w) call).2.1 = s := by
  have hstep := step_cases fs s w call
  generalize step fs (s, w) call = next at hstep h
  cases hstep with
  | created title template => cases h
  | edited bodies found edit =>
    rw [edit.error?_eq_none] at h
    cases h
  | cleared => cases h
  | same => rfl

/-- A call on a page leaves every other page as it was. -/
theorem page_step {s : Sheets Float} {w : W} {call : RenderCall Float} {id other : PageId}
    (hid : call.page? = some id) (hother : other ≠ id) : (step fs (s, w) call).2.1.page other = s.page other := by
  have hcall := call_step fs s w call
  have hstep := step_cases fs s w call
  generalize step fs (s, w) call = next at hcall hstep
  subst hcall
  cases hstep with
  | created title template => cases hid
  | edited bodies found edit =>
    rw [edit.page?_call] at hid
    cases hid
    exact page_setPage_of_ne _ hother _
  | cleared => cases hid
  | same => rfl

/-- To lay a page out again changes nothing. -/
theorem step_recompute_twice (s : Sheets Float) (w : W) (id : PageId) :
    step fs (step fs (s, w) (.recompute id)).2 (.recompute id) = step fs (s, w) (.recompute id) := by
  cases hp : s.page id with
  | error e =>
    have hstep : step fs (s, w) (.recompute id) = (.recompute id (.error e), (s, w)) := by
      rw [step_recompute, recompute, hp]
      rfl
    rw [hstep]
    exact hstep
  | ok p =>
    let laid : Page Float := { p with layout := some (s.config.layout p.title p.template p.views), stale := false }
    let s' := s.edited s.bodiesDrawn s.viewsDrawn id laid
    have hfirst : step fs (s, w) (.recompute id) = (.recompute id (.ok ()), (s', w)) := by
      rw [step_recompute, recompute, hp]
      rfl
    have hagain : s'.recompute id = .ok s' := recompute_edited hp
    have hsecond : step fs (s', w) (.recompute id) = (.recompute id (.ok ()), (s', w)) := by
      rw [step_recompute, hagain]
      rfl
    rw [hfirst]
    exact hsecond

/-! ### Bodies and views of one page -/

/-- A call gives out the next body, or none. -/
theorem bodies_step (s : Sheets Float) (w : W) (call : RenderCall Float) :
    let next := step fs (s, w) call
    (∃ id, next.1.GaveBody id (s.names.body s.bodiesDrawn) ∧ next.2.1.bodiesDrawn = s.bodiesDrawn + 1) ∨
      (∀ id body, ¬ next.1.GaveBody id body) ∧ next.2.1.bodiesDrawn = s.bodiesDrawn := by
  intro next
  have hcall : next.1.call = call := call_step fs s w call
  -- `step_cases` leaves open which body an edit draws, so the calls are taken one by one
  have hnone (h : ∀ id solid, call ≠ .addBody id solid) : ∀ id body, ¬ next.1.GaveBody id body := by
    rintro id body ⟨solid, hev⟩
    rw [hev] at hcall
    exact h id solid hcall.symm
  cases call with
  | createPage | shutdown => exact .inr ⟨hnone (by simp), rfl⟩
  | addBody id solid =>
    cases hp : s.page id with
    | ok p =>
      have hnext : next = _ := step_addBody fs s w id solid
      rw [addBody_eq_ok hp] at hnext
      exact .inl ⟨id, ⟨solid, congrArg Prod.fst hnext⟩, congrArg (fun next => next.2.1.bodiesDrawn) hnext⟩
    | error e =>
      have hnext : next = (.addBody id solid (.error e), (s, w)) := by
        rw [show next = _ from step_addBody fs s w id solid, addBody, hp]
        rfl
      rw [hnext]
      exact .inr ⟨by rintro _ _ ⟨_, ⟨⟩⟩, rfl⟩
  | addView id body request =>
    refine .inr ⟨hnone (by simp), ?_⟩
    rw [show next = _ from step_addView fs s w id body request, addView]
    cases s.page id with
    | error e => rfl
    | ok p =>
      simp only [bind, Except.bind, pure, Except.pure]
      split
      · rfl
      · split <;> rfl
  | addDimension id view d =>
    refine .inr ⟨hnone (by simp), ?_⟩
    rw [show next = _ from step_addDimension fs s w id view d, addDimension]
    cases s.page id with
    | error e => rfl
    | ok p =>
      simp only [bind, Except.bind, pure, Except.pure]
      split <;> rfl
  | recompute id =>
    refine .inr ⟨hnone (by simp), ?_⟩
    rw [show next = _ from step_recompute fs s w id, recompute]
    cases s.page id <;> rfl
  | exportPdf id path =>
    exact .inr ⟨hnone (by simp), congrArg bodiesDrawn (sheets_step_export fs s w .pdf id path)⟩
  | exportSvg id path =>
    exact .inr ⟨hnone (by simp), congrArg bodiesDrawn (sheets_step_export fs s w .svg id path)⟩

theorem names_step (s : Sheets Float) (w : W) (call : RenderCall Float) :
    (step fs (s, w) call).2.1.names = s.names := by
  have hstep := step_cases fs s w call
  generalize step fs (s, w) call = next at hstep
  cases hstep <;> rfl

/-- What is on a page was given to it, and to no other one. -/
structure Owned (evs : List (RenderEvent Float)) (s : Sheets Float) : Prop where
  bodies_injective : Function.Injective s.names.body
  views_injective : Function.Injective s.names.view
  bodies_allotted : Allotted s.names.body s.bodiesDrawn RenderEvent.GaveBody evs
  views_allotted : Allotted s.names.view s.viewsDrawn RenderEvent.GaveView evs
  given : ∀ id p, s.page id = .ok p → ∀ entry ∈ p.bodies, ∃ ev ∈ evs, ev.GaveBody id entry.1

theorem owned_empty (config : SheetConfig Float) {names : SheetNames} (hbody : Function.Injective names.body)
    (hview : Function.Injective names.view) : Owned [] (empty config names) where
  bodies_injective := hbody
  views_injective := hview
  bodies_allotted := .nil
  views_allotted := .nil
  given := by
    intro id p hp
    cases hp

section

variable {s : Sheets Float} {id : PageId} {p p' : Page Float} {ev : RenderEvent Float} {views : Nat}

/-- An edit puts the next view on the page, or none. -/
theorem Edit.views_cases (h : Edit s id p ev p' views) :
    (∀ other view, ev.GaveView other view → other = id ∧ view = s.names.view s.viewsDrawn) ∧
        views = s.viewsDrawn + 1 ∨
      (∀ other view, ¬ ev.GaveView other view) ∧ views = s.viewsDrawn := by
  cases h with
  | addView body request =>
    refine .inl ⟨?_, rfl⟩
    rintro other view ⟨body', request', heq⟩
    cases heq
    exact ⟨rfl, rfl⟩
  | addBody | addDimension | recompute => exact .inr ⟨by rintro other view ⟨_, _, ⟨⟩⟩, rfl⟩

/-- A body on a page after an edit was there before, or was put there by the edit. -/
theorem Edit.bodies_cases (h : Edit s id p ev p' views) :
    ∀ entry ∈ p'.bodies, entry ∈ p.bodies ∨ ev.GaveBody id entry.1 := by
  intro entry hentry
  cases h with
  | addBody solid body =>
    rcases List.mem_cons.1 hentry with rfl | hold
    · exact .inr ⟨solid, rfl⟩
    · exact .inl hold
  | addView | addDimension | recompute => exact .inl hentry

end

namespace Owned

variable {evs : List (RenderEvent Float)} {s : Sheets Float}

theorem bodies_allotted_step (h : Owned evs s) (w : W) (call : RenderCall Float) :
    let next := step fs (s, w) call
    Allotted s.names.body next.2.1.bodiesDrawn RenderEvent.GaveBody (evs ++ [next.1]) := by
  intro next
  rcases bodies_step fs s w call with ⟨id, ⟨solid, hev⟩, hdrawn⟩ | ⟨hnone, hdrawn⟩
  · have hnext : ∀ other body, next.1.GaveBody other body → other = id ∧ body = s.names.body s.bodiesDrawn := by
      rintro other body ⟨solid', heq⟩
      cases hev.symm.trans heq
      exact ⟨rfl, rfl⟩
    rw [show next.2.1.bodiesDrawn = s.bodiesDrawn + 1 from hdrawn]
    exact h.bodies_allotted.append_next h.bodies_injective hnext
  · rw [show next.2.1.bodiesDrawn = s.bodiesDrawn from hdrawn]
    exact h.bodies_allotted.append_of_not hnone

theorem views_allotted_step (h : Owned evs s) (w : W) (call : RenderCall Float) :
    let next := step fs (s, w) call
    Allotted s.names.view next.2.1.viewsDrawn RenderEvent.GaveView (evs ++ [next.1]) := by
  intro next
  have hstep : Step s w next := step_cases fs s w call
  generalize next = next at hstep
  cases hstep with
  | created title template => exact h.views_allotted.append_of_not (by rintro _ _ ⟨_, _, ⟨⟩⟩)
  | edited bodies found edit =>
    rcases edit.views_cases with ⟨hnext, rfl⟩ | ⟨hnone, rfl⟩
    · exact h.views_allotted.append_next h.views_injective hnext
    · exact h.views_allotted.append_of_not hnone
  | cleared => exact h.views_allotted.append_of_not (by rintro _ _ ⟨_, _, ⟨⟩⟩)
  | same ev w' unchanged => exact h.views_allotted.append_of_not fun id _ hev => unchanged id hev.changed

theorem given_step (h : Owned evs s) (w : W) (call : RenderCall Float) :
    let next := step fs (s, w) call
    ∀ id p, next.2.1.page id = .ok p → ∀ entry ∈ p.bodies, ∃ ev ∈ evs ++ [next.1], ev.GaveBody id entry.1 := by
  intro next id p hp entry hentry
  have hearlier (hmem : ∃ ev ∈ evs, ev.GaveBody id entry.1) : ∃ ev ∈ evs ++ [next.1], ev.GaveBody id entry.1 := by
    obtain ⟨ev, hev, hgave⟩ := hmem
    exact ⟨ev, List.mem_append_left _ hev, hgave⟩
  have hstep : Step s w next := step_cases fs s w call
  generalize next = next at hstep hp hearlier
  cases hstep with
  | created title template =>
    rw [page_createPage] at hp
    split at hp
    · cases hp
      cases hentry
    · exact hearlier (h.given id p hp entry hentry)
  | @edited id' old p' ev views bodies found edit =>
    by_cases hid : id = id'
    · subst hid
      have hpage : ({ s with bodiesDrawn := bodies, viewsDrawn := views }.setPage id p').page id = .ok p' :=
        page_edited found
      obtain rfl := Except.ok.inj (hpage.symm.trans hp)
      rcases edit.bodies_cases entry hentry with hold | hgave
      · exact hearlier (h.given id old found entry hold)
      · exact ⟨ev, by simp, hgave⟩
    · rw [page_setPage_of_ne _ hid] at hp
      exact hearlier (h.given id p hp entry hentry)
  | cleared => cases hp
  | same => exact hearlier (h.given id p hp entry hentry)

theorem step (h : Owned evs s) (w : W) (call : RenderCall Float) :
    Owned (evs ++ [(Sheets.step fs (s, w) call).1]) (Sheets.step fs (s, w) call).2.1 where
  bodies_injective := by
    rw [names_step]
    exact h.bodies_injective
  views_injective := by
    rw [names_step]
    exact h.views_injective
  bodies_allotted := by
    rw [names_step]
    exact h.bodies_allotted_step fs w call
  views_allotted := by
    rw [names_step]
    exact h.views_allotted_step fs w call
  given := h.given_step fs w call

end Owned

theorem owned_history (config : SheetConfig Float) {names : SheetNames} (hbody : Function.Injective names.body)
    (hview : Function.Injective names.view) (w : W) (calls : List (RenderCall Float)) :
    Owned (history (step fs) (empty config names, w) calls).1 (history (step fs) (empty config names, w) calls).2.1 :=
  @history_induction _ _ _ (step fs) (fun evs state => Owned evs state.1) _ (owned_empty config hbody hview)
    (fun _ state call h => h.step fs state.2 call) calls

/-! ### What calls leave alone -/

/-- The error says that the page does not know the object, or that there is no such page. -/
def IsUnknownOn (page : PageId) (evs : List (RenderEvent Float)) (kind : PageObject) (name : String)
    (e : RenderError) : Prop :=
  (IsOpen page evs → e = .unknownObject kind name) ∧ (¬ IsOpen page evs → e = .unknownObject .page page.name)

/-- What the next call leaves as it was, behind the events so far. -/
structure Apart (evs : List (RenderEvent Float)) (state : Sheets Float × W) : Prop where
  /-- A call that fails leaves all pages as they were. -/
  failed : ∀ call e, (step fs state call).1.error? = some e → (step fs state call).2.1 = state.1
  /-- A call on a page leaves every other page as it was. -/
  others : ∀ call id, call.page? = some id → ∀ other, other ≠ id →
    (step fs state call).2.1.page other = state.1.page other
  /-- A new page takes the place of no page that is there. -/
  created : ∀ title template other p, state.1.page other = .ok p →
    (step fs state (.createPage title template)).2.1.page other = .ok p
  /-- A body of one page is not known to any other page, if there is such a page at all. -/
  foreignBody : ∀ id body, (∃ ev ∈ evs, ev.GaveBody id body) → ∀ other, other ≠ id → ∀ request, ∃ e,
    step fs state (.addView other body request) = (.addView other body request (.error e), state) ∧
      IsUnknownOn other evs .body body.name e
  /-- A view of one page is not known to any other page, if there is such a page at all. -/
  foreignView : ∀ id view, (∃ ev ∈ evs, ev.GaveView id view) → ∀ other, other ≠ id → ∀ d, ∃ e,
    step fs state (.addDimension other view d) = (.addDimension other view d (.error e), state) ∧
      IsUnknownOn other evs .view view.name e
  /-- Pages are written as they are. -/
  written : ∀ (format : SheetFormat) id path, (step fs state (format.call id path)).2.1 = state.1
  /-- To lay a page out again changes nothing. -/
  laidOut : ∀ id, let next := step fs state (.recompute id)
    step fs next.2 (.recompute id) = next

section

variable {config : SheetConfig Float} {evs : List (RenderEvent Float)} {s : Sheets Float}

/-- A page without the body refuses to show a view of it. -/
theorem step_addView_of_notMem {w : W} {id : PageId} {p : Page Float} (hp : s.page id = .ok p) {body : BodyId}
    (hbody : ∀ entry ∈ p.bodies, entry.1 ≠ body) (request : ViewRequest Float) :
    step fs (s, w) (.addView id body request) =
      (.addView id body request (.error (.unknownObject .body body.name)), (s, w)) := by
  have hany : (p.bodies.any fun entry => entry.1 == body) = false := by simpa using hbody
  rw [step_addView, addView, hp]
  simp only [bind, Except.bind, hany]
  rfl

/-- A page without the view refuses to attach a dimension to it. -/
theorem step_addDimension_of_notMem {w : W} {id : PageId} {p : Page Float} (hp : s.page id = .ok p) {view : ViewId}
    (hview : ∀ v ∈ p.views, v.id ≠ view) (d : DimensionRequest) :
    step fs (s, w) (.addDimension id view d) =
      (.addDimension id view d (.error (.unknownObject .view view.name)), (s, w)) := by
  have hany : (p.views.any fun v => v.id == view) = false := by simpa using hview
  rw [step_addDimension, addDimension, hp]
  simp only [bind, Except.bind, hany]
  rfl

theorem Records.page_createPage_of_ok (h : Records config evs s) (title template : String) {id : PageId}
    {p : Page Float} (hp : s.page id = .ok p) : (s.createPage title template).2.page id = .ok p := by
  obtain ⟨hopen, -⟩ := h.tells_of_page_eq hp
  obtain ⟨ev, hev, hmade⟩ := hopen.exists_mem
  have hne : id ≠ (s.createPage title template).1 := by
    rintro rfl
    exact h.pages_drawn.fresh h.pages_injective ev hev (.of_madePage hmade)
  rw [page_createPage, if_neg hne, hp]

theorem exists_step_addView_eq (h : Records config evs s) (howned : Owned evs s) (w : W) {id other : PageId}
    {body : BodyId} (hgave : ∃ ev ∈ evs, ev.GaveBody id body) (hother : other ≠ id) (request : ViewRequest Float) :
    ∃ e, step fs (s, w) (.addView other body request) = (.addView other body request (.error e), (s, w)) ∧
      IsUnknownOn other evs .body body.name e := by
  by_cases hopen : IsOpen other evs
  · obtain ⟨p, hp, -⟩ := h.found other hopen
    have hbody : ∀ entry ∈ p.bodies, entry.1 ≠ body := by
      rintro entry hentry rfl
      obtain ⟨ev, hev, hid⟩ := hgave
      obtain ⟨ev', hev', hid'⟩ := howned.given other p hp entry hentry
      exact hother (howned.bodies_allotted.unique ev' hev' ev hev other id _ hid' hid)
    exact ⟨_, step_addView_of_notMem fs hp hbody request, fun _ => rfl, fun hno => absurd hopen hno⟩
  · refine ⟨_, ?_, fun hyes => absurd hyes hopen, fun _ => rfl⟩
    rw [step_addView, addView, h.missing other hopen]
    rfl

theorem exists_step_addDimension_eq (h : Records config evs s) (howned : Owned evs s) (w : W)
    {id other : PageId} {view : ViewId} (hgave : ∃ ev ∈ evs, ev.GaveView id view) (hother : other ≠ id)
    (d : DimensionRequest) :
    ∃ e, step fs (s, w) (.addDimension other view d) = (.addDimension other view d (.error e), (s, w)) ∧
      IsUnknownOn other evs .view view.name e := by
  by_cases hopen : IsOpen other evs
  · obtain ⟨p, hp, htells⟩ := h.found other hopen
    have hview : ∀ v ∈ p.views, v.id ≠ view := by
      rintro v hv rfl
      obtain ⟨ev, hev, hid⟩ := hgave
      rw [htells.views] at hv
      obtain ⟨ev', hev', hid'⟩ := RenderEvent.exists_gaveView_of_mem_viewsOn hv
      exact hother (howned.views_allotted.unique ev' hev' ev hev other id _ hid' hid)
    exact ⟨_, step_addDimension_of_notMem fs hp hview d, fun _ => rfl, fun hno => absurd hopen hno⟩
  · refine ⟨_, ?_, fun hyes => absurd hyes hopen, fun _ => rfl⟩
    rw [step_addDimension, addDimension, h.missing other hopen]
    rfl

end

/-- Whatever calls are made to a new renderer of sheets, the next one changes no more than the page it is about, and
nothing at all if it fails; and what was put on one page is not known to the others. -/
theorem apart_history (config : SheetConfig Float) {names : SheetNames} (hpage : Function.Injective names.page)
    (hbody : Function.Injective names.body) (hview : Function.Injective names.view) (w : W)
    (calls : List (RenderCall Float)) : Apart fs (history (step fs) (empty config names, w) calls).1
      (history (step fs) (empty config names, w) calls).2 := by
  have hrecords := records_history fs config hpage hview w calls
  have howned := owned_history fs config hbody hview w calls
  generalize history (step fs) (empty config names, w) calls = result at hrecords howned
  obtain ⟨evs, s, w'⟩ := result
  constructor
  case failed => exact fun call e h => step_eq_of_error fs h
  case others => exact fun call id hid other hother => page_step fs hid hother
  case created => exact fun title template other p hp => hrecords.page_createPage_of_ok title template hp
  case foreignBody =>
    exact fun id body hgave other hother => exists_step_addView_eq fs hrecords howned w' hgave hother
  case foreignView =>
    exact fun id view hgave other hother => exists_step_addDimension_eq fs hrecords howned w' hgave hother
  case written => exact sheets_step_export fs s w'
  case laidOut => exact step_recompute_twice fs s w'

theorem numbered_body_injective : Function.Injective SheetNames.numbered.body :=
  fun _ _ h => append_toString_injective "body" (congrArg BodyId.name h)

/-- A page with a view of a plate, and another page. -/
def plateAndRod : List (RenderCall Float) :=
  [.createPage "Plate" "A4", .addBody (SheetNames.numbered.page 0) ⟨⟨"solid0"⟩, "csg"⟩,
    .addView (SheetNames.numbered.page 0) (SheetNames.numbered.body 0) ⟨"top", ⟨0, 0, 1⟩, none, none⟩,
    .createPage "Rod" "A4"]

private theorem events_plateAndRod (fs : FileSystem (StateM W)) (config : SheetConfig Float) (w : W) :
    (history (step fs) (empty config .numbered, w) plateAndRod).1 =
      [.createPage "Plate" "A4" (.ok (SheetNames.numbered.page 0)),
        .addBody (SheetNames.numbered.page 0) ⟨⟨"solid0"⟩, "csg"⟩ (.ok (SheetNames.numbered.body 0)),
        .addView (SheetNames.numbered.page 0) (SheetNames.numbered.body 0) ⟨"top", ⟨0, 0, 1⟩, none, none⟩
          (.ok (SheetNames.numbered.view 0)),
        .createPage "Rod" "A4" (.ok (SheetNames.numbered.page 1))] := by
  have hdirection : (!(⟨0, 0, 1⟩ : Vec3 Float).isFinite || Scalar.same (⟨0, 0, 1⟩ : Vec3 Float).normSq 0) = false := by
    decide +kernel
  simp [plateAndRod, step_createPage, step_addBody, step_addView, addBody, addView, settle, createPage, setPage, empty,
    bind, Except.bind, pure, Except.pure, page, hdirection]

theorem apart_history_plateAndRod :
    let fs : FileSystem (StateM Disk) := Disk.fileSystem "/"
    let state := (history (step fs) (empty ⟨297, 210, 10, 20, 2, 4⟩ .numbered, ⟨[], []⟩) plateAndRod).2
    let plate := SheetNames.numbered.page 0
    let rod := SheetNames.numbered.page 1
    Function.Injective SheetNames.numbered.page ∧ Function.Injective SheetNames.numbered.body ∧
      Function.Injective SheetNames.numbered.view ∧
      (∀ request, step fs state (.addView rod (SheetNames.numbered.body 0) request) =
        (.addView rod (SheetNames.numbered.body 0) request
          (.error (.unknownObject .body (SheetNames.numbered.body 0).name)), state)) ∧
      (∀ d, step fs state (.addDimension rod (SheetNames.numbered.view 0) d) =
        (.addDimension rod (SheetNames.numbered.view 0) d
          (.error (.unknownObject .view (SheetNames.numbered.view 0).name)), state)) ∧
      (step fs state (.recompute rod)).2.1.page plate = state.1.page plate := by
  intro fs state plate rod
  have h := apart_history fs ⟨297, 210, 10, 20, 2, 4⟩ numbered_page_injective numbered_body_injective
    numbered_view_injective ⟨[], []⟩ plateAndRod
  rw [events_plateAndRod] at h
  have hne : rod ≠ plate := fun heq => absurd (numbered_page_injective heq) (by decide)
  have hopen (evs : List (RenderEvent Float)) : IsOpen rod (evs ++ [.createPage "Rod" "A4" (.ok rod)]) :=
    RenderEvent.isOpen_append_singleton.2 (.inl ⟨_, _, rfl⟩)
  refine ⟨numbered_page_injective, numbered_body_injective, numbered_view_injective, ?_, ?_, ?_⟩
  case refine_1 =>
    intro request
    obtain ⟨e, hstep, he, -⟩ := h.foreignBody plate _ ⟨_, .tail _ (.head _), _, rfl⟩ rod hne request
    exact he (hopen [_, _, _]) ▸ hstep
  case refine_2 =>
    intro d
    obtain ⟨e, hstep, he, -⟩ := h.foreignView plate _ ⟨_, .tail _ (.tail _ (.head _)), _, _, rfl⟩ rod hne d
    exact he (hopen [_, _, _]) ▸ hstep
  case refine_3 => exact h.others (.recompute rod) rod rfl plate hne.symm

end Sheets

end SolidDrawing
