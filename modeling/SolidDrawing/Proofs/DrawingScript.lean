import SolidDrawing.Drawing.Project
import SolidDrawing.Proofs.Histories
import SolidDrawing.Proofs.RenderCalls

/-!
# Drawings as scripts

What is asked of a renderer for a drawing is a list of steps that is known beforehand (`DrawingSpec.steps`), up to the
handles of the page, the body and the views, which the renderer answers as the steps are made (`DrawStep.IsCall`).
`Performs` says of events that the steps are made in them, until one fails; the trace of a drawing is described in
`DrawingSpec.IsTrace`.
-/

namespace SolidDrawing

/-- The texts are the same up to the case of their letters. -/
def Text.SameLetters (s t : String) : Prop := s.toList.map Char.toLower = t.toList.map Char.toLower

/-- The annotation is what the kind stands for. -/
def Annotation.IsOf (kind : String) : Annotation → Prop
  | distance => ∃ word ∈ ["linear", "distance"], Text.SameLetters kind word
  | diameter => ∃ word ∈ ["diameter", "radial", "radius"], Text.SameLetters kind word
  | other verbatim => verbatim = kind ∧
      ∀ word ∈ ["linear", "distance", "diameter", "radial", "radius"], ¬ Text.SameLetters kind word

private theorem lowerAscii_eq_iff {s word : String} (hword : word.toList.map Char.toLower = word.toList) :
    Text.lowerAscii s = word ↔ Text.SameLetters s word := by
  rw [Text.SameLetters, hword, Text.lowerAscii, ← String.toList_inj, String.toList_ofList]

theorem Annotation.isOf_ofKind (kind : String) : Annotation.IsOf kind (.ofKind kind) := by
  have hlinear := @lowerAscii_eq_iff kind "linear" (by decide)
  have hdistance := @lowerAscii_eq_iff kind "distance" (by decide)
  have hdiameter := @lowerAscii_eq_iff kind "diameter" (by decide)
  have hradial := @lowerAscii_eq_iff kind "radial" (by decide)
  have hradius := @lowerAscii_eq_iff kind "radius" (by decide)
  rw [ofKind]
  split
  case isTrue h => simpa [IsOf, hlinear, hdistance] using h
  case isFalse h =>
    split
    case isTrue h' => simpa [IsOf, hdiameter, hradial, hradius] using h'
    case isFalse h' => simpa [IsOf, hlinear, hdistance, hdiameter, hradial, hradius, and_assoc] using And.intro h h'

variable {K : Type}

/-- A step of a drawing. -/
inductive DrawStep (K : Type) where
  | createPage (title template : String)
  | addBody (solid : SolidRef)
  | addView (view : ViewSpec K)
  | recompute
  | addDimension (dimension : DimensionSpec)
  | exportPdf (path : String)
  | exportSvg (path : String)

/-- The steps of a drawing, in order. -/
def DrawingSpec.steps (spec : DrawingSpec K) (solid : SolidRef) (targets : ExportTargets) : List (DrawStep K) :=
  [.createPage spec.pageTitle spec.template, .addBody solid] ++ spec.views.map .addView ++ [.recompute] ++
    spec.dimensions.map .addDimension ++ [.recompute] ++ targets.pdf.toList.map .exportPdf ++
    targets.svg.toList.map .exportSvg

namespace DrawStep

/-- The call is the one that the step asks for after the events `pre`, with the handles that were answered in them. A
dimension belongs to the view that was the last one to be placed under its name. -/
inductive IsCall (pre : List (RenderEvent K)) : DrawStep K → RenderCall K → Prop
  | createPage (title template : String) : IsCall pre (.createPage title template) (.createPage title template)
  | addBody {page : PageId} (solid : SolidRef) (hpage : ∃ ev ∈ pre, ev.MadePage page) :
    IsCall pre (.addBody solid) (.addBody page solid)
  | addView {page : PageId} {body : BodyId} (view : ViewSpec K) (hpage : ∃ ev ∈ pre, ev.MadePage page)
    (hbody : ∃ ev ∈ pre, ev.MadeBody body) :
    IsCall pre (.addView view) (.addView page body
      ⟨view.id, view.direction, view.scale, if view.isSection then some ⟨view.sectionNormal⟩ else none⟩)
  | recompute {page : PageId} (hpage : ∃ ev ∈ pre, ev.MadePage page) : IsCall pre .recompute (.recompute page)
  | addDimension {page : PageId} {view : ViewId} {mark : Annotation} (d : DimensionSpec)
    (hpage : ∃ ev ∈ pre, ev.MadePage page)
    (hview : Since (RenderEvent.MadeView d.viewId view) (fun ev => ∀ other, ¬ ev.MadeView d.viewId other) pre)
    (hkind : mark.IsOf d.kind) :
    IsCall pre (.addDimension d) (.addDimension page view ⟨mark, d.edges, d.label⟩)
  | exportPdf {page : PageId} (path : String) (hpage : ∃ ev ∈ pre, ev.MadePage page) :
    IsCall pre (.exportPdf path) (.exportPdf page path)
  | exportSvg {page : PageId} (path : String) (hpage : ∃ ev ∈ pre, ev.MadePage page) :
    IsCall pre (.exportSvg path) (.exportSvg page path)

end DrawStep

/-- What the calls of a drawing look like, in order and with their answers, up to the result. -/
structure DrawingSpec.IsTrace (spec : DrawingSpec K) (solid : SolidRef) (targets : ExportTargets)
    (evs : List (RenderEvent K)) (result : Except ProjectError Document) : Prop where
  /-- Each call is the one that is asked for by the step in its place. -/
  calls : ∀ pre ev post, evs = pre ++ ev :: post →
    ∃ step, (spec.steps solid targets)[pre.length]? = some step ∧ step.IsCall pre ev.call
  /-- The first call that fails is the last one, and its error is the result. -/
  stop : ∀ pre ev e post, evs = pre ++ ev :: post → ev.error? = some e → post = [] ∧ result = .error (.renderer e)
  /-- There is no other error. -/
  failed : ∀ e, result = .error e → ∃ ev e', evs.getLast? = some ev ∧ ev.error? = some e' ∧ e = .renderer e'
  /-- With a document as the result all steps have been made, and the document is the page with its files. -/
  finished : ∀ doc, result = .ok doc → evs.length = (spec.steps solid targets).length ∧
    (∃ ev ∈ evs, ev.MadePage doc.page) ∧ doc.pdf = targets.pdf ∧ doc.svg = targets.svg

/-! ### Making steps -/

/-- The events in which steps are made after the events `pre`, and the error that ends them. -/
inductive Performs : List (RenderEvent K) → List (DrawStep K) → List (RenderEvent K) → Option RenderError → Prop
  | done (pre : List (RenderEvent K)) : Performs pre [] [] none
  | failed {pre : List (RenderEvent K)} {step : DrawStep K} {ev : RenderEvent K} {e : RenderError}
    (rest : List (DrawStep K)) (call : step.IsCall pre ev.call) (error : ev.error? = some e) :
    Performs pre (step :: rest) [ev] (some e)
  | made {pre : List (RenderEvent K)} {step : DrawStep K} {ev : RenderEvent K} {rest : List (DrawStep K)}
    {evs : List (RenderEvent K)} {failure : Option RenderError} (call : step.IsCall pre ev.call)
    (ok : ev.error? = none) (next : Performs (pre ++ [ev]) rest evs failure) :
    Performs pre (step :: rest) (ev :: evs) failure

namespace Performs

variable {pre evs evs' : List (RenderEvent K)} {steps steps' : List (DrawStep K)} {failure : Option RenderError}

theorem append (hp : Performs pre steps evs none) (hp' : Performs (pre ++ evs) steps' evs' failure) :
    Performs pre (steps ++ steps') (evs ++ evs') failure := by
  generalize hnone : (none : Option RenderError) = first at hp
  induction hp with
  | done pre => simpa using hp'
  | failed rest call error => cases hnone
  | made call ok next ih => exact .made call ok (ih (by simpa using hp') hnone)

theorem append_of_failed {e : RenderError} (hp : Performs pre steps evs (some e)) (steps' : List (DrawStep K)) :
    Performs pre (steps ++ steps') evs (some e) := by
  generalize hsome : some e = first at hp ⊢
  induction hp with
  | done pre => cases hsome
  | failed rest call error => exact .failed _ call error
  | made call ok next ih => exact .made call ok (ih hsome)

theorem exists_isCall (hp : Performs pre steps evs failure) {mid post : List (RenderEvent K)} {ev : RenderEvent K}
    (hev : evs = mid ++ ev :: post) : ∃ step, steps[mid.length]? = some step ∧ step.IsCall (pre ++ mid) ev.call := by
  induction hp generalizing mid with
  | done pre => simp at hev
  | @failed pre step ev' e rest call error =>
    obtain ⟨rfl, rfl, -⟩ : mid = [] ∧ ev' = ev ∧ [] = post := by
      cases mid with
      | nil => simpa using hev
      | cons ev'' mid => simp at hev
    exact ⟨step, rfl, by simpa using call⟩
  | @made pre step ev' rest evs failure call ok next ih =>
    cases mid with
    | nil =>
      obtain ⟨rfl, -⟩ := List.cons.inj hev
      exact ⟨step, rfl, by simpa using call⟩
    | cons ev'' mid =>
      obtain ⟨rfl, htail⟩ := List.cons.inj hev
      simpa using ih htail

theorem eq_nil_of_error (hp : Performs pre steps evs failure) {mid post : List (RenderEvent K)} {ev : RenderEvent K}
    {e : RenderError} (hev : evs = mid ++ ev :: post) (he : ev.error? = some e) : post = [] ∧ failure = some e := by
  induction hp generalizing mid with
  | done pre => simp at hev
  | failed rest call error =>
    cases mid with
    | nil => simp_all
    | cons ev'' mid => simp at hev
  | made call ok next ih =>
    cases mid with
    | nil => simp_all
    | cons ev'' mid => exact ih (List.cons.inj hev).2

theorem getLast?_of_failed {e : RenderError} (hp : Performs pre steps evs (some e)) :
    ∃ ev, evs.getLast? = some ev ∧ ev.error? = some e := by
  generalize hsome : some e = failure at hp
  induction hp with
  | done pre => cases hsome
  | @failed pre step ev e' rest call error => exact ⟨ev, rfl, error⟩
  | made call ok next ih =>
    obtain ⟨ev, hlast, he⟩ := ih hsome
    exact ⟨ev, by rw [List.getLast?_cons, hlast]; rfl, he⟩

theorem length_eq (hp : Performs pre steps evs none) : evs.length = steps.length := by
  generalize hnone : (none : Option RenderError) = failure at hp
  induction hp with
  | done pre => rfl
  | failed rest call error => cases hnone
  | made call ok next ih => simp [ih hnone]

end Performs

section

variable {spec : DrawingSpec K} {solid : SolidRef} {targets : ExportTargets} {evs : List (RenderEvent K)}

theorem DrawingSpec.isTrace_of_failed {e : RenderError} (hp : Performs [] (spec.steps solid targets) evs (some e)) :
    spec.IsTrace solid targets evs (.error (.renderer e)) := by
  constructor
  case calls => exact fun pre ev post hev => by simpa using hp.exists_isCall hev
  case stop =>
    intro pre ev e' post hev he
    obtain ⟨hpost, hfail⟩ := hp.eq_nil_of_error hev he
    exact ⟨hpost, by rw [Option.some.inj hfail]⟩
  case failed =>
    intro e' he'
    obtain ⟨ev, hlast, hev⟩ := hp.getLast?_of_failed
    exact ⟨ev, e, hlast, hev, (Except.error.inj he').symm⟩
  case finished => exact fun doc hdoc => nomatch hdoc

theorem DrawingSpec.isTrace_of_done {page : PageId} (hp : Performs [] (spec.steps solid targets) evs none)
    (hpage : ∃ ev ∈ evs, ev.MadePage page) :
    spec.IsTrace solid targets evs (.ok ⟨page, targets.pdf, targets.svg⟩) := by
  constructor
  case calls => exact fun pre ev post hev => by simpa using hp.exists_isCall hev
  case stop =>
    intro pre ev e' post hev he
    cases (hp.eq_nil_of_error hev he).2
  case failed => exact fun e he => nomatch he
  case finished =>
    intro doc hdoc
    obtain rfl := Except.ok.inj hdoc
    exact ⟨hp.length_eq, hpage, rfl, rfl⟩

end

end SolidDrawing
