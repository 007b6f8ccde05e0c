import SolidDrawing.Proofs.DrawingScript
import SolidDrawing.Proofs.Runs

/-!
# The calls of a drawing

A drawing is watched through `Renderer.traced`, for a renderer of which nothing is known: it has any state, answers any
handles and fails where it likes. `Draws` says of a program that it makes steps of a drawing; it holds of each call, and
of programs one after the other if it holds of both (`Draws.bind`). What the renderer has answered so far is all that
the next steps depend on (`Placed`). The main statement is `Renderer.exists_trace_of_project`.
-/

namespace SolidDrawing

variable {K σ ε α β : Type}

/-- The program makes the steps after the events `pre`, up to the first one that fails. Then that is its error; if there
is none, `post` holds of all events and of its result. It makes no difference that the renderer is watched. -/
def Draws (ofRenderer : RenderError → ε) (pre : List (RenderEvent K)) (steps : List (DrawStep K))
    (x : ExceptT ε (StateM σ) α) (watched : ExceptT ε (StateT (List (RenderEvent K)) (StateM σ)) α)
    (post : List (RenderEvent K) → α → Prop) : Prop :=
  ∀ log s, ∃ evs result s', x.run.run s = (result, s') ∧
    (watched.run.run log).run s = ((result, evs.reverse ++ log), s') ∧
    match result with
    | .ok a => Performs pre steps evs none ∧ post (pre ++ evs) a
    | .error e => ∃ failure, e = ofRenderer failure ∧ Performs pre steps evs (some failure)

namespace Draws

variable {ofRenderer : RenderError → ε} {pre : List (RenderEvent K)} {steps steps' : List (DrawStep K)}
  {x : ExceptT ε (StateM σ) α} {watched : ExceptT ε (StateT (List (RenderEvent K)) (StateM σ)) α}
  {post post' : List (RenderEvent K) → α → Prop}

theorem pure {a : α} (ha : post pre a) : Draws (σ := σ) ofRenderer pre [] (pure a) (pure a) post :=
  fun _ s => ⟨[], .ok a, s, rfl, rfl, .done pre, by simpa using ha⟩

theorem bind {f : α → ExceptT ε (StateM σ) β} {f' : α → ExceptT ε (StateT (List (RenderEvent K)) (StateM σ)) β}
    {post' : List (RenderEvent K) → β → Prop} (hx : Draws ofRenderer pre steps x watched post)
    (hf : ∀ a pre, post pre a → Draws ofRenderer pre steps' (f a) (f' a) post') :
    Draws ofRenderer pre (steps ++ steps') (x >>= f) (watched >>= f') post' := by
  intro log s
  obtain ⟨evs, result, s', hrun, hwatched, h⟩ := hx log s
  cases result with
  | error e =>
    obtain ⟨failure, rfl, hp⟩ := h
    exact ⟨evs, .error _, s', by rw [run_bind, hrun], by rw [run_bind_log, hwatched], failure, rfl,
      hp.append_of_failed steps'⟩
  | ok a =>
    obtain ⟨hp, ha⟩ := h
    obtain ⟨evs', result', s'', hrun', hwatched', h'⟩ := hf a _ ha (evs.reverse ++ log) s'
    refine ⟨evs ++ evs', result', s'', by rw [run_bind, hrun]; exact hrun', ?_, ?_⟩
    · rw [run_bind_log, hwatched]
      simpa using hwatched'
    · cases result' with
      | error e =>
        obtain ⟨failure, rfl, hp'⟩ := h'
        exact ⟨failure, rfl, hp.append hp'⟩
      | ok b => exact ⟨hp.append h'.1, by simpa using h'.2⟩

theorem adapt {x : ExceptT RenderError (StateM σ) α}
    {watched : ExceptT RenderError (StateT (List (RenderEvent K)) (StateM σ)) α}
    (hx : Draws id pre steps x watched post) (ofRenderer : RenderError → ε) :
    Draws ofRenderer pre steps (x.adapt ofRenderer) (watched.adapt ofRenderer) post := by
  intro log s
  obtain ⟨evs, result, s', hrun, hwatched, h⟩ := hx log s
  refine ⟨evs, result.mapError ofRenderer, s', ?_, ?_, ?_⟩
  · rw [ExceptT.run_adapt, StateT.run_map, hrun]
    rfl
  · rw [ExceptT.run_adapt, StateT.run_map, StateT.run_map, hwatched]
    rfl
  · cases result with
    | error e =>
      obtain ⟨failure, rfl, hp⟩ := h
      exact ⟨e, rfl, hp⟩
    | ok a => exact h

/-- A call makes the step that it is the call of. -/
theorem noting {step : DrawStep K} {call : RenderCall K} (action : ExceptT RenderError (StateM σ) α)
    {event : Except RenderError α → RenderEvent K} (hcall : step.IsCall pre call)
    (hevent : ∀ answer, (event answer).call = call ∧ (event answer).error? = errorOf? answer)
    (hpost : ∀ a, post (pre ++ [event (.ok a)]) a) :
    Draws id pre [step] action (Renderer.noting event action) post := by
  intro log s
  have hwatched : ((Renderer.noting event action).run.run log).run s =
      (((action.run.run s).1, event (action.run.run s).1 :: log), (action.run.run s).2) := rfl
  rcases hrun : action.run.run s with ⟨result, s'⟩
  rw [hrun] at hwatched
  have hof : step.IsCall pre (event result).call := by rwa [(hevent result).1]
  refine ⟨[event result], result, s', rfl, hwatched, ?_⟩
  cases result with
  | error e => exact ⟨e, rfl, .failed [] hof (hevent _).2⟩
  | ok a => exact ⟨.made hof (hevent _).2 (.done _), hpost a⟩

end Draws

/-! ### What has been answered so far -/

/-- The page is one that was made in the events, and so is the body, and each handle is that of the view that was the
last one to be placed under its name. -/
structure Placed (pre : List (RenderEvent K)) (page : PageId) (body : BodyId) (views : List (String × ViewId)) :
    Prop where
  page : ∃ ev ∈ pre, ev.MadePage page
  body : ∃ ev ∈ pre, ev.MadeBody body
  views : ∀ name entry, views.find? (fun p => p.1 == name) = some entry →
    Since (RenderEvent.MadeView name entry.2) (fun ev => ∀ other, ¬ ev.MadeView name other) pre

private theorem exists_mem_append_singleton {pre : List α} {p : α → Prop} (h : ∃ ev ∈ pre, p ev) (last : α) :
    ∃ ev ∈ pre ++ [last], p ev := by
  obtain ⟨ev, hmem, hev⟩ := h
  exact ⟨ev, by simp [hmem], hev⟩

namespace Placed

variable {pre : List (RenderEvent K)} {page : PageId} {body : BodyId} {views : List (String × ViewId)}

theorem other (h : Placed pre page body views) {ev : RenderEvent K} (hev : ∀ name view, ¬ ev.MadeView name view) :
    Placed (pre ++ [ev]) page body views where
  page := exists_mem_append_singleton h.page ev
  body := exists_mem_append_singleton h.body ev
  views := fun name entry hfind => since_append_singleton.2 (.inr ⟨hev name, h.views name entry hfind⟩)

theorem view (h : Placed pre page body views) (request : ViewRequest K) (view : ViewId) :
    Placed (pre ++ [.addView page body request (.ok view)]) page body ((request.name, view) :: views) where
  page := exists_mem_append_singleton h.page _
  body := exists_mem_append_singleton h.body _
  views := by
    intro name entry hfind
    rw [List.find?_cons] at hfind
    refine since_append_singleton.2 ?_
    split at hfind
    case h_1 hname =>
      -- the view under the same name that was placed before is hidden by this one
      obtain rfl := Option.some.inj hfind
      exact .inl ⟨page, body, request, rfl, by simpa using hname⟩
    case h_2 hname =>
      refine .inr ⟨fun other hother => ?_, h.views name entry hfind⟩
      obtain ⟨_, _, _, heq, rfl⟩ := hother
      cases heq
      simp at hname

/-- A call that places no view keeps what has been answered. -/
theorem noting (h : Placed pre page body views) {step : DrawStep K} {call : RenderCall K}
    (action : ExceptT RenderError (StateM σ) α) {event : Except RenderError α → RenderEvent K}
    (hcall : step.IsCall pre call)
    (hevent : ∀ answer, (event answer).call = call ∧ (event answer).error? = errorOf? answer)
    (hother : ∀ answer name view, ¬ (event answer).MadeView name view) :
    Draws id pre [step] action (Renderer.noting event action) fun pre _ => Placed pre page body views :=
  .noting action hcall hevent fun _ => h.other (hother _)

end Placed

/-! ### Drawing -/

namespace Renderer

variable (r : Renderer K (StateM σ)) {pre : List (RenderEvent K)} {page : PageId} {body : BodyId}
  {placed : List (String × ViewId)}

private theorem draws_createPage (title template : String) :
    Draws id pre [.createPage title template] (r.createPage title template) (r.traced.createPage title template)
      fun pre page => ∃ ev ∈ pre, ev.MadePage page :=
  .noting _ (.createPage title template) (fun _ => ⟨rfl, rfl⟩) fun _ => ⟨_, by simp, title, template, rfl⟩

private theorem draws_addBody (solid : SolidRef) (hpage : ∃ ev ∈ pre, ev.MadePage page) :
    Draws id pre [.addBody solid] (r.addBody page solid) (r.traced.addBody page solid)
      fun pre body => Placed pre page body [] :=
  .noting _ (.addBody solid hpage) (fun _ => ⟨rfl, rfl⟩) fun _ =>
    ⟨exists_mem_append_singleton hpage _, ⟨_, by simp, page, solid, rfl⟩, by simp⟩

private theorem draws_recompute (h : Placed pre page body placed) :
    Draws id pre [.recompute] (r.recompute page) (r.traced.recompute page)
      fun pre _ => Placed pre page body placed :=
  h.noting _ (.recompute h.page) (fun _ => ⟨rfl, rfl⟩) (by simp [RenderEvent.MadeView])

theorem addViews_cons {m : Type → Type} [Monad m] [LawfulMonad m] (r : Renderer K m) (page : PageId) (body : BodyId)
    (placed : List (String × ViewId)) (v : ViewSpec K) (views : List (ViewSpec K)) :
    r.addViews page body placed (v :: views) =
      r.addView page body v.request >>= fun id => r.addViews page body ((v.id, id) :: placed) views := by
  simp [addViews]

private theorem draws_addViews (views : List (ViewSpec K)) (h : Placed pre page body placed) :
    Draws id pre (views.map .addView) (r.addViews page body placed views) (r.traced.addViews page body placed views)
      fun pre placed' => Placed pre page body placed' ∧
        placed'.map Prod.fst = (views.map fun v => v.id).reverse ++ placed.map Prod.fst := by
  induction views generalizing pre placed with
  | nil => exact .pure ⟨h, by simp⟩
  | cons v views ih =>
    rw [addViews_cons, addViews_cons, List.map_cons, ← List.singleton_append]
    have hview : Draws id pre [.addView v] (r.addView page body v.request) (r.traced.addView page body v.request)
        fun pre id => Placed pre page body ((v.id, id) :: placed) :=
      .noting _ (.addView v h.page h.body) (fun _ => ⟨rfl, rfl⟩) fun id => h.view v.request id
    refine .bind hview fun id pre h' => ?_
    simpa using ih h'

private theorem draws_addDimensions (dimensions : List DimensionSpec) (index : Nat) (h : Placed pre page body placed)
    (hknown : ∀ d ∈ dimensions, d.viewId ∈ placed.map Prod.fst) :
    Draws .renderer pre (dimensions.map .addDimension) (r.addDimensions page placed index dimensions)
      (r.traced.addDimensions page placed index dimensions) fun pre _ => Placed pre page body placed := by
  induction dimensions generalizing pre index with
  | nil => exact .pure h
  | cons d dimensions ih =>
    obtain ⟨hd, hrest⟩ := List.forall_mem_cons.1 hknown
    -- the view was looked for before any call was made, so it is found among those that were placed
    obtain ⟨entry, hfind⟩ : ∃ entry, placed.find? (fun p => p.1 == d.viewId) = some entry := by
      obtain ⟨entry, hmem, hname⟩ := List.mem_map.1 hd
      exact Option.isSome_iff_exists.1 (List.find?_isSome.2 ⟨entry, hmem, by simp [hname]⟩)
    rw [addDimensions, addDimensions, hfind, List.map_cons, ← List.singleton_append]
    have hkind : d.request.annotation.IsOf d.kind := Annotation.isOf_ofKind d.kind
    have hdimension : Draws id pre [.addDimension d] (r.addDimension page entry.2 d.request)
        (r.traced.addDimension page entry.2 d.request) fun pre _ => Placed pre page body placed :=
      h.noting _ (.addDimension d h.page (h.views _ _ hfind) hkind) (fun _ => ⟨rfl, rfl⟩)
        (by simp [RenderEvent.MadeView])
    exact .bind (hdimension.adapt ProjectError.renderer) fun _ pre h' => ih (index + 1) h' hrest

private theorem draws_exportTo {step : String → DrawStep K}
    {write : PageId → String → ExceptT RenderError (StateM σ) Unit}
    {watched : PageId → String → ExceptT RenderError (StateT (List (RenderEvent K)) (StateM σ)) Unit}
    (hwrite : ∀ path, Draws id pre [step path] (write page path) (watched page path)
      fun pre _ => Placed pre page body placed) (h : Placed pre page body placed) (target : Option String) :
    Draws id pre (target.toList.map step) (exportTo write page target) (exportTo watched page target)
      fun pre _ => Placed pre page body placed := by
  cases target with
  | none => exact .pure h
  | some path => exact hwrite path

private theorem draws_exportPdf (h : Placed pre page body placed) (target : Option String) :
    Draws id pre (target.toList.map .exportPdf) (exportTo r.exportPdf page target)
      (exportTo r.traced.exportPdf page target) fun pre _ => Placed pre page body placed :=
  draws_exportTo (fun path => h.noting _ (.exportPdf path h.page) (fun _ => ⟨rfl, rfl⟩)
    (by simp [RenderEvent.MadeView])) h target

private theorem draws_exportSvg (h : Placed pre page body placed) (target : Option String) :
    Draws id pre (target.toList.map .exportSvg) (exportTo r.exportSvg page target)
      (exportTo r.traced.exportSvg page target) fun pre _ => Placed pre page body placed :=
  draws_exportTo (fun path => h.noting _ (.exportSvg path h.page) (fun _ => ⟨rfl, rfl⟩)
    (by simp [RenderEvent.MadeView])) h target

end Renderer

private theorem mem_of_dimensionsFault?_eq_none {ids : List String} {index : Nat} {dimensions : List DimensionSpec}
    (h : dimensionsFault? ids index dimensions = none) : ∀ d ∈ dimensions, d.viewId ∈ ids := by
  induction dimensions generalizing index with
  | nil => simp
  | cons d dimensions ih =>
    rw [dimensionsFault?] at h
    split at h
    case isTrue hd => exact List.forall_mem_cons.2 ⟨by simpa using hd, ih h⟩
    case isFalse => cases h

variable [Scalar K]

theorem DrawingSpec.viewId_mem_of_fault?_eq_none {policy : Policy} {spec : DrawingSpec K}
    (h : spec.fault? policy = none) : ∀ d ∈ spec.dimensions, d.viewId ∈ spec.views.map (·.id) := by
  rw [fault?] at h
  cases hviews : viewsFault? policy [] spec.views with
  | some fault => simp [hviews] at h
  | none => exact mem_of_dimensionsFault?_eq_none (by simpa [hviews] using h)

namespace Renderer

variable (r : Renderer K (StateM σ))

private theorem draws_project {policy : Policy} {spec : DrawingSpec K} (hfault : spec.fault? policy = none)
    (solid : SolidRef) (targets : ExportTargets) :
    Draws .renderer [] (spec.steps solid targets) (r.project policy solid spec targets)
      (r.traced.project policy solid spec targets) fun evs doc =>
        (∃ ev ∈ evs, ev.MadePage doc.page) ∧ doc = ⟨doc.page, targets.pdf, targets.svg⟩ := by
  have hsteps : spec.steps solid targets = [.createPage spec.pageTitle spec.template] ++ ([.addBody solid] ++
      (spec.views.map .addView ++ ([.recompute] ++ (spec.dimensions.map .addDimension ++ ([.recompute] ++
        (targets.pdf.toList.map .exportPdf ++ (targets.svg.toList.map .exportSvg ++ []))))))) := by
    simp [DrawingSpec.steps]
  rw [hsteps, project, project, hfault]
  refine .bind ((r.draws_createPage _ _).adapt ProjectError.renderer) fun page pre hpage => ?_
  refine .bind ((r.draws_addBody solid hpage).adapt _) fun body pre hbody => ?_
  refine .bind ((r.draws_addViews spec.views hbody).adapt _) fun placed pre ⟨hplaced, hnames⟩ => ?_
  refine .bind ((r.draws_recompute hplaced).adapt _) fun _ pre hplaced => ?_
  have hknown : ∀ d ∈ spec.dimensions, d.viewId ∈ placed.map Prod.fst := by
    simpa [hnames] using DrawingSpec.viewId_mem_of_fault?_eq_none hfault
  refine .bind (r.draws_addDimensions spec.dimensions 0 hplaced hknown) fun _ pre hplaced => ?_
  refine .bind ((r.draws_recompute hplaced).adapt _) fun _ pre hplaced => ?_
  refine .bind ((r.draws_exportPdf hplaced targets.pdf).adapt _) fun _ pre hplaced => ?_
  refine .bind ((r.draws_exportSvg hplaced targets.svg).adapt _) fun _ pre hplaced => ?_
  exact .pure ⟨hplaced.page, rfl⟩

/-- A description that is at fault reaches no renderer. Otherwise the calls are those of the steps of the drawing up to
the first failure, each with the handles that the renderer has answered before. -/
theorem exists_trace_of_project (policy : Policy) (solid : SolidRef) (spec : DrawingSpec K) (targets : ExportTargets)
    (log : List (RenderEvent K)) (s : σ) :
    match spec.fault? policy with
    | some fault =>
      ((r.traced.project policy solid spec targets).run.run log).run s = ((.error (.invalid fault), log), s)
    | none => ∃ evs result s', spec.IsTrace solid targets evs result ∧
        ((r.traced.project policy solid spec targets).run.run log).run s = ((result, evs.reverse ++ log), s') ∧
        (r.project policy solid spec targets).run.run s = (result, s') := by
  split
  · rename_i fault h
    rw [project, h]
    rfl
  · rename_i h
    obtain ⟨evs, result, s', hrun, hwatched, hresult⟩ := r.draws_project h solid targets log s
    refine ⟨evs, result, s', ?_, hwatched, hrun⟩
    cases result with
    | error e =>
      obtain ⟨failure, rfl, hp⟩ := hresult
      exact DrawingSpec.isTrace_of_failed hp
    | ok doc =>
      obtain ⟨hp, hpage, hdoc⟩ := hresult
      rw [hdoc]
      exact DrawingSpec.isTrace_of_done hp (by simpa using hpage)

end Renderer

end SolidDrawing
