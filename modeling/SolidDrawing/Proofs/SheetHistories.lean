import Mathlib.Logic.Function.Basic
import SolidDrawing.Proofs.SheetSteps

/-!
# Histories of sheets

Any calls are made one after the other on a sheet renderer that was new at first, with names that it gave out or not.
As long as names do not repeat, `Sheets.Shows` holds of the calls and their answers: a page can be written if it is open
and was laid out since it was last changed, and what is written is all that was put on it so far; any other page is not
written, and the error says why.
-/

namespace SolidDrawing

open RenderEvent (IsOpen IsLaidOut viewsOn)

namespace Sheets

variable {W : Type} (fs : FileSystem (StateM W))

/-- What the events so far say about the sheets, and about what is written next. -/
structure Shows (config : SheetConfig Float) (evs : List (RenderEvent Float)) (state : Sheets Float × W) : Prop where
  /-- A page can be written if it is open and was laid out since it was last changed. -/
  exportable_iff : ∀ page, (∃ layout, state.1.exportable page = .ok layout) ↔ IsOpen page evs ∧ IsLaidOut page evs
  /-- What is written is all that was put on the page so far. -/
  written : ∀ page, IsOpen page evs → IsLaidOut page evs → ∀ title template,
    .createPage title template (.ok page) ∈ evs → ∀ (format : SheetFormat) path,
    let layout := config.layout title template (viewsOn page evs)
    let saved := (fs.save path (format.bytes config layout)).run.run state.2
    step fs state (format.call page path) = (format.event page path (saved.1.mapError .io), (state.1, saved.2))
  /-- A page that was changed since it was last laid out is not written. -/
  refused : ∀ page, IsOpen page evs → ¬ IsLaidOut page evs → ∀ (format : SheetFormat) path, ∃ reason,
    step fs state (format.call page path) = (format.event page path (.error (.invalidRequest reason)), state)
  /-- A page that is not open is not written. -/
  unknown : ∀ page, ¬ IsOpen page evs → ∀ (format : SheetFormat) path,
    step fs state (format.call page path) =
      (format.event page path (.error (.unknownObject .page page.name)), state)

/-! ### Pages and their events -/

section

variable {K : Type} [Scalar K] [DecimalText K]

/-- The page is as the events tell, and its layout is up to date unless it is stale. -/
structure Tells (config : SheetConfig K) (evs : List (RenderEvent K)) (id : PageId) (p : Page K) : Prop where
  heading : ∀ title template, .createPage title template (.ok id) ∈ evs → title = p.title ∧ template = p.template
  views : p.views = viewsOn id evs
  stale : p.stale = false ↔ IsLaidOut id evs
  layout : p.stale = false → p.layout = some (config.layout p.title p.template p.views)

variable {config : SheetConfig K} {evs : List (RenderEvent K)} {id : PageId} {p p' : Page K} {ev : RenderEvent K}

/-- A page that was just made. -/
theorem tells_createPage (config : SheetConfig K) (hnew : ∀ ev ∈ evs, ¬ ev.Changed id) (title template : String) :
    Tells config (evs ++ [.createPage title template (.ok id)]) id ⟨title, template, [], [], none, true⟩ where
  heading := by
    intro title' template' h
    rcases List.mem_append.1 h with h | h
    · exact absurd (.createPage title' template') (hnew _ h)
    · simpa using h
  views := by
    rw [RenderEvent.viewsOn_append rfl, RenderEvent.viewsOn_eq_nil hnew]
    rfl
  stale := by simpa using RenderEvent.not_isLaidOut_of_changed (.createPage title template)
  layout := by simp

/-- What has nothing to do with the page leaves it as it was. -/
theorem Tells.other (h : Tells config evs id p) (hchanged : ¬ ev.Changed id) (hlaid : ev ≠ .recompute id (.ok ())) :
    Tells config (evs ++ [ev]) id p where
  heading := by
    intro title template hmem
    rcases List.mem_append.1 hmem with hmem | hmem
    · exact h.heading title template hmem
    · exact absurd (List.mem_singleton.1 hmem ▸ .createPage title template) hchanged
  views := by rw [h.views, RenderEvent.viewsOn_append_of_not_changed hchanged]
  stale := by rw [h.stale, RenderEvent.isLaidOut_append_iff hchanged hlaid]
  layout := h.layout

theorem Tells.edit {s : Sheets K} {views : Nat} (h : Tells s.config evs id p) (hedit : Edit s id p ev p' views)
    (hnew : ∀ ev ∈ evs, ¬ ev.Shown (s.names.view s.viewsDrawn)) : Tells s.config (evs ++ [ev]) id p' := by
  have heading : ∀ title template, .createPage title template (.ok id) ∈ evs ++ [ev] →
      title = p.title ∧ template = p.template := by
    intro title template hmem
    rcases List.mem_append.1 hmem with hmem | hmem
    · exact h.heading title template hmem
    · exact absurd ⟨title, template, (List.mem_singleton.1 hmem).symm⟩ (hedit.not_madePage id)
  cases hedit with
  | addBody solid body =>
    refine ⟨heading, ?_, ?_, nofun⟩
    · exact h.views.trans (RenderEvent.viewsOn_append_eq rfl fun _ => rfl).symm
    · simpa using RenderEvent.not_isLaidOut_of_changed (.addBody solid body)
  | addView body request =>
    refine ⟨heading, ?_, ?_, nofun⟩
    · rw [RenderEvent.viewsOn_append_addView body request hnew, ← h.views]
    · simpa using RenderEvent.not_isLaidOut_of_changed (.addView body request _)
  | addDimension view d known =>
    refine ⟨heading, ?_, ?_, nofun⟩
    · rw [RenderEvent.viewsOn_append_addDimension, ← h.views]
    · simpa using RenderEvent.not_isLaidOut_of_changed (.addDimension view d)
  | recompute =>
    refine ⟨heading, ?_, ?_, fun _ => rfl⟩
    · exact h.views.trans (RenderEvent.viewsOn_append_eq rfl fun _ => rfl).symm
    · simp [RenderEvent.isLaidOut_append_singleton]

end

/-! ### Histories -/

/-- The sheets under the events so far: names that are used up, and open pages. -/
structure Records (config : SheetConfig Float) (evs : List (RenderEvent Float)) (s : Sheets Float) : Prop where
  config_eq : s.config = config
  pages_injective : Function.Injective s.names.page
  views_injective : Function.Injective s.names.view
  pages_drawn : Drawn s.names.page s.pagesDrawn RenderEvent.Changed evs
  views_drawn : Drawn s.names.view s.viewsDrawn RenderEvent.Shown evs
  found : ∀ id, IsOpen id evs → ∃ p, s.page id = .ok p ∧ Tells config evs id p
  missing : ∀ id, ¬ IsOpen id evs → s.page id = .error (.unknownObject .page id.name)

theorem records_empty (config : SheetConfig Float) {names : SheetNames} (hpage : Function.Injective names.page)
    (hview : Function.Injective names.view) : Records config [] (empty config names) where
  config_eq := rfl
  pages_injective := hpage
  views_injective := hview
  pages_drawn := .nil
  views_drawn := .nil
  found := fun _ h => absurd h not_since_nil
  missing := fun _ _ => rfl

namespace Records

variable {config : SheetConfig Float} {evs : List (RenderEvent Float)} {s : Sheets Float}

theorem created (h : Records config evs s) (title template : String) :
    Records config (evs ++ [.createPage title template (.ok (s.createPage title template).1)])
      (s.createPage title template).2 where
  config_eq := h.config_eq
  pages_injective := h.pages_injective
  views_injective := h.views_injective
  pages_drawn := h.pages_drawn.append_singleton (Nat.le_succ _) fun _ hid =>
    ⟨s.pagesDrawn, Nat.lt_succ_self _, hid.eq_of_createPage⟩
  views_drawn := h.views_drawn.append_of_not nofun
  found := by
    intro id hopen
    rw [page_createPage]
    split
    case isTrue hid =>
      subst hid
      exact ⟨_, rfl, tells_createPage config (h.pages_drawn.fresh h.pages_injective) title template⟩
    case isFalse hid =>
      rcases RenderEvent.isOpen_append_singleton.1 hopen with ⟨_, _, heq⟩ | ⟨-, hopen⟩
      · cases heq
        exact absurd rfl hid
      · obtain ⟨p, hp, htells⟩ := h.found id hopen
        exact ⟨p, hp, htells.other (fun hev => hid hev.eq_of_createPage.symm) nofun⟩
  missing := by
    intro id hopen
    rw [RenderEvent.isOpen_append_singleton, not_or] at hopen
    have hid : id ≠ (s.createPage title template).1 := by
      rintro rfl
      exact hopen.1 ⟨title, template, rfl⟩
    rw [page_createPage, if_neg hid]
    exact h.missing id fun hid => hopen.2 ⟨rfl, hid⟩

theorem tells_of_page_eq (h : Records config evs s) {id : PageId} {p : Page Float} (hp : s.page id = .ok p) :
    IsOpen id evs ∧ Tells config evs id p := by
  have hopen : IsOpen id evs := by
    by_contra hno
    rw [h.missing id hno] at hp
    cases hp
  obtain ⟨p', hp', htells⟩ := h.found id hopen
  obtain rfl := Except.ok.inj (hp.symm.trans hp')
  exact ⟨hopen, htells⟩

theorem edited (h : Records config evs s) {id : PageId} {p p' : Page Float} {ev : RenderEvent Float} {views : Nat}
    (bodies : Nat) (hp : s.page id = .ok p) (edit : Edit s id p ev p' views) :
    Records config (evs ++ [ev]) ({ s with bodiesDrawn := bodies, viewsDrawn := views }.setPage id p') := by
  obtain ⟨hopen, htells⟩ := h.tells_of_page_eq hp
  have hopen_iff (other : PageId) : IsOpen other (evs ++ [ev]) ↔ IsOpen other evs :=
    RenderEvent.isOpen_append_iff (edit.not_madePage other) edit.isShutdown_eq
  have hpage (other : PageId) : ({ s with bodiesDrawn := bodies, viewsDrawn := views }.setPage id p').page other =
      (s.page other).map fun old => if other = id then p' else old := page_setPage _ id other p'
  constructor
  case config_eq => exact h.config_eq
  case pages_injective => exact h.pages_injective
  case views_injective => exact h.views_injective
  case pages_drawn =>
    -- an edit draws no name of a page: the page that it changes was made before
    refine h.pages_drawn.append_singleton (Nat.le_refl _) fun other hother => ?_
    obtain rfl := edit.eq_of_changed hother
    obtain ⟨ev, hev, hmade⟩ := hopen.exists_mem
    exact h.pages_drawn ev hev other (.of_madePage hmade)
  case views_drawn =>
    refine h.views_drawn.append_singleton edit.le_views fun view hview => ?_
    rcases edit.shown hview with hnew | ⟨v, hv, rfl⟩
    · exact hnew
    · obtain ⟨ev, hev, hshown⟩ := RenderEvent.exists_shown_of_mem_viewsOn (htells.views ▸ hv)
      obtain ⟨n, hlt, hname⟩ := h.views_drawn ev hev v.id hshown
      exact ⟨n, Nat.lt_of_lt_of_le hlt edit.le_views, hname⟩
  case found =>
    intro other hother
    obtain ⟨old, hold, hold_tells⟩ := h.found other ((hopen_iff other).1 hother)
    rw [hpage, hold]
    by_cases hid : other = id
    · subst hid
      refine ⟨p', by simp [Except.map], ?_⟩
      -- pages are laid out with the configuration of the renderer
      rw [← h.config_eq] at htells ⊢
      exact htells.edit edit (h.views_drawn.fresh h.views_injective)
    · refine ⟨old, by simp [Except.map, hid], hold_tells.other ?_ (edit.ne_recompute hid)⟩
      exact fun hev => hid (edit.eq_of_changed hev)
  case missing =>
    intro other hother
    rw [hpage, h.missing other ((hopen_iff other).not.1 hother)]
    rfl

theorem cleared (h : Records config evs s) : Records config (evs ++ [.shutdown]) s.clear where
  config_eq := h.config_eq
  pages_injective := h.pages_injective
  views_injective := h.views_injective
  pages_drawn := h.pages_drawn.append_of_not nofun
  views_drawn := h.views_drawn.append_of_not nofun
  found := by
    intro id hopen
    rcases RenderEvent.isOpen_append_singleton.1 hopen with ⟨_, _, heq⟩ | ⟨hrunning, -⟩
    · cases heq
    · cases hrunning
  missing := fun _ _ => rfl

theorem same (h : Records config evs s) {ev : RenderEvent Float} (unchanged : ∀ id, ¬ ev.Changed id)
    (notLaidOut : ∀ id, ev ≠ .recompute id (.ok ())) (running : ev.isShutdown = false) :
    Records config (evs ++ [ev]) s := by
  have hopen_iff (id : PageId) : IsOpen id (evs ++ [ev]) ↔ IsOpen id evs :=
    RenderEvent.isOpen_append_iff (fun hmade => unchanged id (.of_madePage hmade)) running
  constructor
  case config_eq => exact h.config_eq
  case pages_injective => exact h.pages_injective
  case views_injective => exact h.views_injective
  case pages_drawn => exact h.pages_drawn.append_of_not unchanged
  case views_drawn =>
    refine h.views_drawn.append_of_not fun view hview => ?_
    obtain ⟨id, hid⟩ := hview.exists_changed
    exact unchanged id hid
  case found =>
    intro id hopen
    obtain ⟨p, hp, htells⟩ := h.found id ((hopen_iff id).1 hopen)
    exact ⟨p, hp, htells.other (unchanged id) (notLaidOut id)⟩
  case missing => exact fun id hopen => h.missing id ((hopen_iff id).not.1 hopen)

theorem step (h : Records config evs s) (w : W) (call : RenderCall Float) :
    Records config (evs ++ [(Sheets.step fs (s, w) call).1]) (Sheets.step fs (s, w) call).2.1 := by
  have hstep := step_cases fs s w call
  generalize Sheets.step fs (s, w) call = next at hstep
  cases hstep with
  | created title template => exact h.created title template
  | edited bodies hp edit => exact h.edited bodies hp edit
  | cleared => exact h.cleared
  | same ev w' unchanged notLaidOut running => exact h.same unchanged notLaidOut running

end Records

theorem records_history (config : SheetConfig Float) {names : SheetNames} (hpage : Function.Injective names.page)
    (hview : Function.Injective names.view) (w : W) (calls : List (RenderCall Float)) :
    Records config (history (step fs) (empty config names, w) calls).1
      (history (step fs) (empty config names, w) calls).2.1 :=
  @history_induction _ _ _ (step fs) (fun evs state => Records config evs state.1) _
    (records_empty config hpage hview) (fun _ state call h => h.step fs state.2 call) calls

/-! ### Writing pages -/

namespace Records

variable {config : SheetConfig Float} {evs : List (RenderEvent Float)} {s : Sheets Float}

theorem exportable_eq (h : Records config evs s) {id : PageId} {title template : String} (hopen : IsOpen id evs)
    (hmade : .createPage title template (.ok id) ∈ evs) (hlaid : IsLaidOut id evs) :
    s.exportable id = .ok (config.layout title template (viewsOn id evs)) := by
  obtain ⟨p, hp, htells⟩ := h.found id hopen
  have hstale := htells.stale.2 hlaid
  obtain ⟨rfl, rfl⟩ := htells.heading title template hmade
  rw [exportable, hp]
  simp only [bind, Except.bind, htells.layout hstale, hstale, htells.views]

theorem exists_exportable_eq (h : Records config evs s) {id : PageId} (hopen : IsOpen id evs)
    (hlaid : ¬ IsLaidOut id evs) : ∃ reason, s.exportable id = .error (.invalidRequest reason) := by
  obtain ⟨p, hp, htells⟩ := h.found id hopen
  have hstale : p.stale = true := by simpa using htells.stale.not.2 hlaid
  refine ⟨"page '" ++ p.title ++ "' has changes that were not recomputed", ?_⟩
  rw [exportable, hp]
  simp only [bind, Except.bind, hstale]
  cases p.layout <;> rfl

theorem exportable_eq_of_missing (h : Records config evs s) {id : PageId} (hopen : ¬ IsOpen id evs) :
    s.exportable id = .error (.unknownObject .page id.name) := by
  rw [exportable, h.missing id hopen]
  rfl

theorem shows (h : Records config evs s) (w : W) : Shows fs config evs (s, w) where
  exportable_iff := by
    intro id
    constructor
    · rintro ⟨layout, hlayout⟩
      by_contra hno
      rw [not_and] at hno
      by_cases hopen : IsOpen id evs
      · obtain ⟨reason, hreason⟩ := h.exists_exportable_eq hopen (hno hopen)
        rw [hreason] at hlayout
        cases hlayout
      · rw [h.exportable_eq_of_missing hopen] at hlayout
        cases hlayout
    · rintro ⟨hopen, hlaid⟩
      obtain ⟨ev, hev, title, template, rfl⟩ := hopen.exists_mem
      exact ⟨_, h.exportable_eq hopen hev hlaid⟩
  written := by
    intro id hopen hlaid title template hmade format path
    rw [step_export, h.exportable_eq hopen hmade hlaid, h.config_eq]
  refused := by
    intro id hopen hlaid format path
    obtain ⟨reason, hreason⟩ := h.exists_exportable_eq hopen hlaid
    exact ⟨reason, by rw [step_export, hreason]⟩
  unknown := by
    intro id hopen format path
    rw [step_export, h.exportable_eq_of_missing hopen]

end Records

/-- Whatever calls are made to a new renderer of sheets, what it writes next is what the calls have put on the page. -/
theorem shows_history (config : SheetConfig Float) {names : SheetNames} (hpage : Function.Injective names.page)
    (hview : Function.Injective names.view) (w : W) (calls : List (RenderCall Float)) :
    Shows fs config (history (step fs) (empty config names, w) calls).1
      (history (step fs) (empty config names, w) calls).2 :=
  (records_history fs config hpage hview w calls).shows fs _

/-! ### Names with numbers -/

private theorem toString_injective : Function.Injective (toString : Nat → String) := by
  intro n m h
  have hdigits : Nat.toDigits 10 n = Nat.toDigits 10 m := String.ofList_injective h
  have hvalue (n : Nat) : Nat.ofDigitChars 10 (Nat.toDigits 10 n) 0 = n :=
    Nat.ofDigitChars_toDigits (by decide) (Nat.le_refl 10)
  rw [← hvalue n, hdigits, hvalue m]

theorem append_toString_injective (kind : String) : Function.Injective fun n : Nat => kind ++ toString n :=
  fun _ _ h => toString_injective (String.append_right_inj _ |>.1 h)

theorem numbered_page_injective : Function.Injective SheetNames.numbered.page :=
  fun _ _ h => append_toString_injective "page" (congrArg PageId.name h)

theorem numbered_view_injective : Function.Injective SheetNames.numbered.view :=
  fun _ _ h => append_toString_injective "view" (congrArg ViewId.name h)

/-- A page that is laid out, and another one that is not. -/
def twoPages : List (RenderCall Float) :=
  [.createPage "Plate" "A4", .recompute (SheetNames.numbered.page 0), .createPage "Rod" "A4"]

private theorem events_twoPages (fs : FileSystem (StateM W)) (config : SheetConfig Float) (w : W) :
    (history (step fs) (empty config .numbered, w) twoPages).1 =
      [.createPage "Plate" "A4" (.ok (SheetNames.numbered.page 0)), .recompute (SheetNames.numbered.page 0) (.ok ()),
        .createPage "Rod" "A4" (.ok (SheetNames.numbered.page 1))] := by
  simp [twoPages, step_createPage, step_recompute, recompute, settle, createPage, setPage, empty, bind, Except.bind,
    pure, Except.pure, Except.map, page]

theorem shows_history_twoPages :
    let fs : FileSystem (StateM Disk) := Disk.fileSystem "/"
    let state := (history (step fs) (empty ⟨297, 210, 10, 20, 2, 4⟩ .numbered, ⟨[], []⟩) twoPages).2
    (∃ layout, state.1.exportable (SheetNames.numbered.page 0) = .ok layout) ∧
      (∃ reason, step fs state (SheetFormat.pdf.call (SheetNames.numbered.page 1) "rod.pdf") =
        (SheetFormat.pdf.event (SheetNames.numbered.page 1) "rod.pdf" (.error (.invalidRequest reason)), state)) ∧
      step fs state (SheetFormat.svg.call (SheetNames.numbered.page 2) "rod.svg") =
        (SheetFormat.svg.event (SheetNames.numbered.page 2) "rod.svg"
          (.error (.unknownObject .page (SheetNames.numbered.page 2).name)), state) := by
  intro fs state
  have h := shows_history fs ⟨297, 210, 10, 20, 2, 4⟩ numbered_page_injective numbered_view_injective ⟨[], []⟩ twoPages
  rw [events_twoPages] at h
  have hne {n m : Nat} (hnm : n ≠ m) : SheetNames.numbered.page n ≠ SheetNames.numbered.page m :=
    fun heq => hnm (numbered_page_injective heq)
  refine ⟨(h.exportable_iff _).2 ⟨?_, ?_⟩, h.refused _ ?_ ?_ .pdf _, h.unknown _ ?_ .svg _⟩
  case refine_1 => exact ⟨[], _, _, rfl, ⟨_, _, rfl⟩, by simp [RenderEvent.isShutdown]⟩
  case refine_2 =>
    exact ⟨[_], _, _, rfl, rfl, List.forall_mem_singleton.2 fun hchanged =>
      hne (by decide) hchanged.eq_of_createPage⟩
  case refine_3 => exact ⟨[_, _], _, [], rfl, ⟨_, _, rfl⟩, by simp⟩
  case refine_4 =>
    intro hlaid
    obtain ⟨ev, hmem, rfl⟩ := hlaid.exists_mem
    simp [hne] at hmem
  case refine_5 =>
    intro hopen
    obtain ⟨ev, hmem, title, template, rfl⟩ := hopen.exists_mem
    simp [hne] at hmem

end Sheets
end SolidDrawing
