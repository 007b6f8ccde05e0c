import SolidDrawing.Renderer

/-!
# Sheet layout

A sheet shows every view of a page as a frame with a heading and lines of text: the direction, the scale, the section
and one line for each dimension. Frames fill rows of equal cells between the margins, above a title block along the
bottom edge. Lines that do not fit into a frame are left out from the end.

Lengths are in millimetres, and `y` grows downwards.
-/

namespace SolidDrawing

/-- The measures of a sheet. -/
structure SheetConfig (K : Type) where
  width : K
  height : K
  margin : K
  titleBlock : K
  columns : Nat
  fontSize : K
  deriving Repr, BEq, DecidableEq

/-- A rectangle by its top left corner and its edges. -/
structure Rect (K : Type) where
  x : K
  y : K
  width : K
  height : K
  deriving Repr, BEq, DecidableEq

/-- The frame of a view. -/
structure Frame (K : Type) where
  view : ViewId
  rect : Rect K
  heading : String
  lines : List String
  deriving Repr, BEq, DecidableEq

/-- Everything on a sheet in its place. -/
structure Layout (K : Type) where
  title : String
  template : String
  border : Rect K
  titleBlock : Rect K
  frames : List (Frame K)
  deriving Repr, BEq, DecidableEq

/-- A view on a page, with its dimensions in order. -/
structure PlacedView (K : Type) where
  id : ViewId
  request : ViewRequest K
  dimensions : List DimensionRequest
  deriving Repr, BEq, DecidableEq

variable {K : Type}

/-- A vector in round brackets. -/
def Vec3.parenthesized [DecimalText K] (v : Vec3 K) : String :=
  "(" ++ DecimalText.text v.x ++ ", " ++ DecimalText.text v.y ++ ", " ++ DecimalText.text v.z ++ ")"

/-- The line of a dimension: what it annotates, its label, and its edges if it has any. -/
def DimensionRequest.line (d : DimensionRequest) : String :=
  d.annotation.name ++ " " ++ d.label ++
    (if d.edges.isEmpty then "" else " [" ++ ", ".intercalate d.edges ++ "]")

/-- The line of a section. -/
def SectionRequest.line [DecimalText K] (s : SectionRequest K) : String :=
  match s.normal with
  | some normal => "section normal " ++ normal.parenthesized
  | none => "section default plane"

/-- The line of a scale. -/
def scaleLine [DecimalText K] : Option K → String
  | some scale => "scale " ++ DecimalText.text scale
  | none => "scale default"

/-- All lines of a view. -/
def PlacedView.lines [DecimalText K] (v : PlacedView K) : List String :=
  ["direction " ++ v.request.direction.parenthesized, scaleLine v.request.scale] ++
    (v.request.cut.map SectionRequest.line).toList ++ v.dimensions.map DimensionRequest.line

namespace SheetConfig

variable [Scalar K]

/-- The distance from one line of text to the next. -/
def lineHeight (c : SheetConfig K) : K := c.fontSize * 1.4

/-- The rectangle between the margins. -/
def border (c : SheetConfig K) : Rect K :=
  ⟨c.margin, c.margin, c.width - 2 * c.margin, c.height - 2 * c.margin⟩

/-- The title block along the bottom edge of the border. -/
def titleRect (c : SheetConfig K) : Rect K :=
  ⟨c.border.x, c.border.y + c.border.height - c.titleBlock, c.border.width, c.titleBlock⟩

/-- The number of frames in a row. -/
def perRow (c : SheetConfig K) : Nat := max c.columns 1

/-- The number of rows for `n` frames: as few as possible, and at least one. -/
def rows (c : SheetConfig K) (n : Nat) : Nat := max ((n + c.perRow - 1) / c.perRow) 1

def cellWidth (c : SheetConfig K) : K := c.border.width / Scalar.ofCount c.perRow

def cellHeight (c : SheetConfig K) (n : Nat) : K := (c.border.height - c.titleBlock) / Scalar.ofCount (c.rows n)

/-- The cell of frame number `i` among `n`. -/
def cell (c : SheetConfig K) (n i : Nat) : Rect K :=
  ⟨c.border.x + Scalar.ofCount (i % c.perRow) * c.cellWidth,
    c.border.y + Scalar.ofCount (i / c.perRow) * c.cellHeight n, c.cellWidth, c.cellHeight n⟩

/-- The number of lines that fit below the heading of one of `n` frames. -/
def maxLines (c : SheetConfig K) (n : Nat) : Nat :=
  Scalar.floor (Scalar.larger ((c.cellHeight n - 2 * c.lineHeight) / c.lineHeight) 0)

/-- The frame of view number `i` among `n`. -/
def frame [DecimalText K] (c : SheetConfig K) (n i : Nat) (v : PlacedView K) : Frame K :=
  ⟨v.id, c.cell n i, v.request.name, v.lines.take (c.maxLines n)⟩

/-- The sheet with the given title, template and views. -/
def layout [DecimalText K] (c : SheetConfig K) (title template : String) (views : List (PlacedView K)) : Layout K :=
  ⟨title, template, c.border, c.titleRect, views.mapIdx (c.frame views.length)⟩

end SheetConfig

end SolidDrawing
