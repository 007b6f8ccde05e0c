import SolidDrawing.Sheet.Layout

/-!
# Sheets as SVG

A sheet is written as an SVG document, one element a line. `Svg.elements` says which elements a layout has,
`Svg.Element.line` writes one of them. Texts are escaped, so that no text can be taken for markup.
-/

namespace SolidDrawing.Svg

/-- The entity of a character that has a meaning in markup. -/
def entity? : Char → Option String
  | '&' => some "&amp;"
  | '<' => some "&lt;"
  | '>' => some "&gt;"
  | '"' => some "&quot;"
  | '\'' => some "&apos;"
  | _ => none

/-- A character inside a text. -/
def escapeChar (c : Char) : List Char :=
  match entity? c with
  | some entity => entity.toList
  | none => [c]

/-- A text with entities for the characters that have a meaning in markup. -/
def escape (s : String) : String := String.ofList (s.toList.flatMap escapeChar)

theorem toList_escape (s : String) : (escape s).toList = s.toList.flatMap escapeChar := by
  rw [escape, String.toList_ofList]

theorem escape_append (s t : String) : escape (s ++ t) = escape s ++ escape t := by
  rw [← String.toList_inj]
  simp only [toList_escape, String.toList_append, List.flatMap_append]

/-- A text without such characters stays as it is. -/
theorem escape_eq_self {s : String} (h : ∀ c ∈ s.toList, entity? c = none) : escape s = s := by
  have hself : ∀ c ∈ s.toList, escapeChar c = [c] := by
    intro c hc
    rw [escapeChar, h c hc]
  rw [escape, List.flatMap_def, List.map_congr_left hself, ← List.flatMap_def, List.flatMap_singleton',
    String.ofList_toList]

theorem entity?_eq_none_of_isDigit {c : Char} (h : c.isDigit = true) : entity? c = none := by
  unfold entity?
  split
  case h_6 => rfl
  all_goals exact absurd h (by decide)

/-- Numbers stay as they are. -/
theorem escape_text (x : Float) : escape (DecimalText.text x) = DecimalText.text x := by
  have hother : ∀ c ∈ ['-', '.', 'N', 'a', 'i', 'n', 'f'], entity? c = none := by simp [entity?]
  exact escape_eq_self (Decimal.Style.forall_mem_plain (fun _ => entity?_eq_none_of_isDigit) hother x)

/-- So do the values that are the same on every sheet. -/
theorem escape_fixed : ∀ value ∈ ["http://www.w3.org/2000/svg", "mm", "0 0 ", " ", "Helvetica, Arial, sans-serif",
    "border", "title-block", "title-frame", "view", "view-", "view-frame", "none", "black", "bold"],
    escape value = value := by
  decide

/-- What the lines of a sheet document hold. -/
inductive Element (K : Type) where
  | declaration
  | openDocument (width height fontSize : K)
  | title (content : String)
  | template (content : String)
  | rect (role : String) (rect : Rect K) (stroke : K)
  | openTitleBlock
  | openView (heading : String)
  | text (x y : K) (content : String) (bold : Bool)
  | closeGroup
  | closeDocument
  deriving Repr, BEq, DecidableEq

namespace Element

variable {K : Type} [DecimalText K]

/-- An attribute with a blank before it. Of the values on a sheet only the identifiers of views are changed by escaping
(`escape_text`, `escape_fixed`). -/
def attr (name value : String) : String := " " ++ name ++ "=\"" ++ escape value ++ "\""

/-- A number as an attribute. -/
def measure (name : String) (x : K) : String := attr name (DecimalText.text x)

/-- The line of an element. -/
def line : Element K → String
  | declaration => "<?xml version=\"1.0\" encoding=\"UTF-8\"?>"
  | openDocument width height fontSize =>
    let w := DecimalText.text width
    let h := DecimalText.text height
    "<svg" ++ attr "xmlns" "http://www.w3.org/2000/svg" ++ attr "width" (w ++ "mm") ++
      attr "height" (h ++ "mm") ++ attr "viewBox" ("0 0 " ++ w ++ " " ++ h) ++
      attr "font-family" "Helvetica, Arial, sans-serif" ++ measure "font-size" fontSize ++ ">"
  | title content => "  <title>" ++ escape content ++ "</title>"
  | template content => "  <desc>template: " ++ escape content ++ "</desc>"
  | rect role r stroke =>
    "  <rect" ++ attr "class" role ++ measure "x" r.x ++ measure "y" r.y ++ measure "width" r.width ++
      measure "height" r.height ++ attr "fill" "none" ++ attr "stroke" "black" ++
      measure "stroke-width" stroke ++ "/>"
  | openTitleBlock => "  <g" ++ attr "class" "title-block" ++ ">"
  | openView heading => "  <g" ++ attr "class" "view" ++ attr "id" ("view-" ++ heading) ++ ">"
  | text x y content bold =>
    "    <text" ++ measure "x" x ++ measure "y" y ++ (if bold then attr "font-weight" "bold" else "") ++ ">" ++
      escape content ++ "</text>"
  | closeGroup => "  </g>"
  | closeDocument => "</svg>"

end Element

variable {K : Type} [Scalar K]

/-- Lines of text below one another, the first of them one step below `y`. -/
def textLines (x step : K) : K → List String → List (Element K)
  | _, [] => []
  | y, s :: rest => .text x (y + step) s false :: textLines x step (y + step) rest

/-- The elements of a frame. -/
def frameElements (step : K) (f : Frame K) : List (Element K) :=
  let x := f.rect.x + step
  let y := f.rect.y + 1.5 * step
  [.openView f.heading, .rect "view-frame" f.rect 0.25, .text x y f.heading true] ++ textLines x step y f.lines ++
    [.closeGroup]

/-- The elements of a sheet. -/
def elements (c : SheetConfig K) (l : Layout K) : List (Element K) :=
  let step := c.lineHeight
  let block := l.titleBlock
  [.declaration, .openDocument c.width c.height c.fontSize, .title l.title, .template l.template,
    .rect "border" l.border 0.7, .openTitleBlock, .rect "title-frame" block 0.5,
    .text (block.x + step) (block.y + 1.5 * step) l.title true,
    .text (block.x + step) (block.y + 2.7 * step) l.template false, .closeGroup] ++
    l.frames.flatMap (frameElements step) ++ [.closeDocument]

/-- The document of a sheet. -/
def document [DecimalText K] (c : SheetConfig K) (l : Layout K) : String :=
  String.join ((elements c l).map fun e => e.line ++ "\n")

end SolidDrawing.Svg
