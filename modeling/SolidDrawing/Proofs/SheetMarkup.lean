import SolidDrawing.Proofs.Markup

/-!
# The markup of sheets

The document of a sheet is read back tag by tag (`Svg.read?_document`). Its tags and the names of their attributes are
fixed by how many frames there are and how many lines each of them has (`Svg.skeleton`), and what is read between the
tags are the texts of the layout, whatever characters they have (`Svg.skeleton_document`).
-/

namespace SolidDrawing.Svg

open Xml (Tag TagKind Shape Piece read?)

variable {K : Type}

/-! ### Texts of elements -/

/-- The text of an element. -/
def Element.content? : Element K → Option String
  | title content => some content
  | template content => some ("template: " ++ content)
  | text _ _ content _ => some content
  | _ => none

section

variable [Scalar K]

/-- What does not depend on where a text is can be read off the lines. -/
theorem flatMap_textLines {α : Type} {f : Element K → List α} {g : String → List α}
    (h : ∀ x y s, f (.text x y s false) = g s) (x step y : K) (lines : List String) :
    (textLines x step y lines).flatMap f = lines.flatMap g := by
  induction lines generalizing y with
  | nil => rfl
  | cons s lines ih => rw [textLines, List.flatMap_cons, List.flatMap_cons, h, ih]

theorem content_textLines (x step y : K) (lines : List String) :
    (textLines x step y lines).filterMap Element.content? = lines := by
  rw [List.filterMap_eq_flatMap_toList, flatMap_textLines (g := fun s => [s]) fun _ _ _ => rfl,
    List.flatMap_singleton']

theorem content_frameElements (step : K) (f : Frame K) :
    (frameElements step f).filterMap Element.content? = f.heading :: f.lines := by
  have hclose : [(Element.closeGroup : Element K)].filterMap Element.content? = [] := rfl
  rw [frameElements, List.filterMap_append, List.filterMap_append, content_textLines, hclose, List.append_nil]
  rfl

theorem content_elements (c : SheetConfig K) (l : Layout K) :
    (elements c l).filterMap Element.content? =
      [l.title, "template: " ++ l.template, l.title, l.template] ++ l.frames.flatMap fun f => f.heading :: f.lines := by
  have hclose : [(Element.closeDocument : Element K)].filterMap Element.content? = [] := rfl
  rw [elements, List.filterMap_append, List.filterMap_append, List.filterMap_flatMap, hclose, List.append_nil]
  simp only [content_frameElements]
  rfl

end

/-! ### Tags of elements -/

namespace Element

/-- The blanks in front of an element. -/
def indent : Element K → String
  | declaration | openDocument .. | closeDocument => ""
  | text .. => "    "
  | _ => "  "

theorem escape_indent (e : Element K) : (escape ("\n" ++ e.indent)).toList = '\n' :: e.indent.toList := by
  cases e <;> simp only [indent] <;> decide

theorem isBlank_indent (e : Element K) : Xml.IsBlank ("\n" ++ e.indent) := by
  cases e <;> simp only [indent] <;> decide

variable [DecimalText K]

/-- The tags of an element that its text is behind. -/
def inner : Element K → List Piece
  | title content => [⟨⟨.opening, "title", []⟩, content⟩]
  | template content => [⟨⟨.opening, "desc", []⟩, "template: " ++ content⟩]
  | text x y content bold =>
    [⟨⟨.opening, "text", [("x", DecimalText.text x), ("y", DecimalText.text y)] ++
      if bold then [("font-weight", "bold")] else []⟩, content⟩]
  | _ => []

/-- The tag at the end of an element. -/
def last : Element K → Tag
  | declaration => ⟨.declaration, "xml", [("version", "1.0"), ("encoding", "UTF-8")]⟩
  | openDocument width height fontSize =>
    let w := DecimalText.text width
    let h := DecimalText.text height
    ⟨.opening, "svg", [("xmlns", "http://www.w3.org/2000/svg"), ("width", w ++ "mm"), ("height", h ++ "mm"),
      ("viewBox", "0 0 " ++ w ++ " " ++ h), ("font-family", "Helvetica, Arial, sans-serif"),
      ("font-size", DecimalText.text fontSize)]⟩
  | title _ => ⟨.closing, "title", []⟩
  | template _ => ⟨.closing, "desc", []⟩
  | rect role r stroke =>
    ⟨.empty, "rect", [("class", role), ("x", DecimalText.text r.x), ("y", DecimalText.text r.y),
      ("width", DecimalText.text r.width), ("height", DecimalText.text r.height), ("fill", "none"),
      ("stroke", "black"), ("stroke-width", DecimalText.text stroke)]⟩
  | openTitleBlock => ⟨.opening, "g", [("class", "title-block")]⟩
  | openView heading => ⟨.opening, "g", [("class", "view"), ("id", "view-" ++ heading)]⟩
  | text .. => ⟨.closing, "text", []⟩
  | closeGroup => ⟨.closing, "g", []⟩
  | closeDocument => ⟨.closing, "svg", []⟩

/-- A line is the tags of its element behind blanks. -/
theorem toList_line (e : Element K) :
    e.line.toList = e.indent.toList ++ e.inner.flatMap Piece.chars ++ e.last.chars := by
  unfold line
  cases e with
  | declaration =>
    have hdeclaration : "<?xml version=\"1.0\" encoding=\"UTF-8\"?>".toList =
        Tag.chars ⟨.declaration, "xml", [("version", "1.0"), ("encoding", "UTF-8")]⟩ := by decide
    exact hdeclaration
  | template content =>
    have hprefix : escape ("template: " ++ content) = "template: " ++ escape content := escape_append _ _
    simp [indent, inner, last, Piece.chars, Tag.chars, Tag.attributeChars, TagKind.before, TagKind.after, hprefix]
  | text x y content bold =>
    cases bold <;> simp [measure, indent, inner, last, Piece.chars, Tag.chars, Tag.attributeChars,
      TagKind.before, TagKind.after]
  | _ =>
    simp [measure, indent, inner, last, Piece.chars, Tag.chars, Tag.attributeChars, TagKind.before, TagKind.after]

end Element

/-- A text between its tags. -/
def textShapes (bold : Bool) : List Shape :=
  [⟨.opening, "text", ["x", "y"] ++ if bold then ["font-weight"] else []⟩, ⟨.closing, "text", []⟩]

def rectShape : Shape := ⟨.empty, "rect", ["class", "x", "y", "width", "height", "fill", "stroke", "stroke-width"]⟩

/-- The tags that sheets are written with. -/
def vocabulary : List Shape :=
  [⟨.declaration, "xml", ["version", "encoding"]⟩,
    ⟨.opening, "svg", ["xmlns", "width", "height", "viewBox", "font-family", "font-size"]⟩, ⟨.closing, "svg", []⟩,
    ⟨.opening, "title", []⟩, ⟨.closing, "title", []⟩, ⟨.opening, "desc", []⟩, ⟨.closing, "desc", []⟩, rectShape,
    ⟨.opening, "g", ["class"]⟩, ⟨.opening, "g", ["class", "id"]⟩, ⟨.closing, "g", []⟩] ++
    textShapes false ++ textShapes true

/-- The blanks in front of the first of some elements. -/
def indentOf : List (Element K) → String
  | [] => ""
  | e :: _ => e.indent

theorem isBlank_indentOf (es : List (Element K)) : Xml.IsBlank ("\n" ++ indentOf es) := by
  cases es with
  | nil => simp only [indentOf]; decide
  | cons e es => exact e.isBlank_indent

variable [DecimalText K]

/-- The tags of elements, each with what stands behind it: the text of the element, or the line end and the blanks that
are in front of the next one. -/
def pieces : List (Element K) → List Piece
  | [] => []
  | e :: es => e.inner ++ ⟨e.last, "\n" ++ indentOf es⟩ :: pieces es

theorem Element.shape_mem_vocabulary (e : Element K) :
    (∀ p ∈ e.inner, p.tag.shape ∈ vocabulary) ∧ e.last.shape ∈ vocabulary := by
  cases e with
  | text x y content bold => cases bold <;> simp [inner, last, Tag.shape, vocabulary, textShapes]
  | _ => simp [inner, last, Tag.shape, vocabulary, rectShape]

theorem shape_mem_vocabulary (es : List (Element K)) : ∀ p ∈ pieces es, p.tag.shape ∈ vocabulary := by
  induction es with
  | nil => exact nofun
  | cons e es ih =>
    obtain ⟨hinner, hlast⟩ := e.shape_mem_vocabulary
    rw [pieces, List.forall_mem_append, List.forall_mem_cons]
    exact ⟨hinner, hlast, ih⟩

theorem isNamed_of_mem_vocabulary : ∀ shape ∈ vocabulary, shape.IsNamed := by decide

theorem flatMap_line (es : List (Element K)) :
    (es.flatMap fun e => (e.line ++ "\n").toList) = (indentOf es).toList ++ (pieces es).flatMap Piece.chars := by
  induction es with
  | nil => rfl
  | cons e es ih =>
    have hblank : (escape ("\n" ++ indentOf es)).toList = '\n' :: (indentOf es).toList := by
      cases es with
      | nil => simp only [indentOf]; decide
      | cons e es => exact e.escape_indent
    rw [List.flatMap_cons, ih, String.toList_append, Element.toList_line, pieces, List.flatMap_append,
      List.flatMap_cons, Piece.chars, hblank]
    simp [indentOf]

/-! ### Texts between tags -/

/-- The text behind a tag of the kind that has one behind it. -/
def textOf? (p : Piece) : Option String :=
  if p.tag.kind = .opening ∧ p.tag.name ∈ ["title", "desc", "text"] then some p.data else none

theorem Element.filterMap_inner (e : Element K) : e.inner.filterMap textOf? = e.content?.toList := by
  cases e <;> simp [inner, textOf?, content?]

theorem Element.textOf?_last (e : Element K) (data : String) : textOf? ⟨e.last, data⟩ = none := by
  cases e <;> simp [last, textOf?]

theorem filterMap_pieces (es : List (Element K)) : (pieces es).filterMap textOf? = es.filterMap Element.content? := by
  induction es with
  | nil => rfl
  | cons e es ih =>
    rw [pieces, List.filterMap_append, e.filterMap_inner, List.filterMap_cons_none (e.textOf?_last _), ih]
    cases h : e.content? <;> simp [h]

theorem isBlank_of_textOf?_eq_none (es : List (Element K)) :
    ∀ p ∈ pieces es, textOf? p = none → Xml.IsBlank p.data := by
  induction es with
  | nil => exact nofun
  | cons e es ih =>
    rw [pieces, List.forall_mem_append, List.forall_mem_cons]
    refine ⟨?_, fun _ => isBlank_indentOf es, ih⟩
    cases e <;> simp [Element.inner, textOf?]

/-! ### Tags -/

/-- The tags of a frame with so many lines. -/
def frameShapes (lines : Nat) : List Shape :=
  [⟨.opening, "g", ["class", "id"]⟩, rectShape] ++ textShapes true ++
    (List.replicate lines (textShapes false)).flatten ++ [⟨.closing, "g", []⟩]

/-- The tags of a sheet whose frames have so many lines. -/
def skeleton (lines : List Nat) : List Shape :=
  [⟨.declaration, "xml", ["version", "encoding"]⟩,
    ⟨.opening, "svg", ["xmlns", "width", "height", "viewBox", "font-family", "font-size"]⟩,
    ⟨.opening, "title", []⟩, ⟨.closing, "title", []⟩, ⟨.opening, "desc", []⟩, ⟨.closing, "desc", []⟩, rectShape,
    ⟨.opening, "g", ["class"]⟩, rectShape] ++ textShapes true ++ textShapes false ++ [⟨.closing, "g", []⟩] ++
    lines.flatMap frameShapes ++ [⟨.closing, "svg", []⟩]

/-- The tags of an element. -/
def Element.tags (e : Element K) : List Tag := e.inner.map Piece.tag ++ [e.last]

theorem map_tag_pieces (es : List (Element K)) : (pieces es).map Piece.tag = es.flatMap Element.tags := by
  induction es with
  | nil => rfl
  | cons e es ih => simp [pieces, Element.tags, ih]

/-- The tags of an element without the values of their attributes. -/
def Element.shapes (e : Element K) : List Shape := e.tags.map Tag.shape

theorem map_shape_pieces (es : List (Element K)) :
    (pieces es).map (·.tag.shape) = es.flatMap Element.shapes := by
  have hmap : (pieces es).map (·.tag.shape) = ((pieces es).map Piece.tag).map Tag.shape := by
    rw [List.map_map]
    rfl
  rw [hmap, map_tag_pieces, List.map_flatMap]
  rfl

section

variable [Scalar K]

theorem shapes_textLines (x step y : K) (lines : List String) :
    (textLines x step y lines).flatMap Element.shapes = (List.replicate lines.length (textShapes false)).flatten := by
  rw [flatMap_textLines (g := fun _ => textShapes false) fun _ _ _ => rfl, List.flatMap_def, List.map_const']

theorem shapes_frameElements (step : K) (f : Frame K) :
    (frameElements step f).flatMap Element.shapes = frameShapes f.lines.length := by
  rw [frameElements, List.flatMap_append, List.flatMap_append, shapes_textLines]
  rfl

variable (c : SheetConfig K) (l : Layout K)

theorem shapes_elements :
    (elements c l).flatMap Element.shapes = skeleton (l.frames.map (·.lines.length)) := by
  rw [elements, List.flatMap_append, List.flatMap_append, List.flatMap_assoc, skeleton, List.flatMap_map]
  simp only [shapes_frameElements]
  rfl

theorem toList_document : (document c l).toList = (pieces (elements c l)).flatMap Piece.chars := by
  rw [document, String.toList_join, List.flatMap_map, flatMap_line]
  rfl

/-- The document of a sheet is read back tag by tag. -/
theorem read?_document : read? (document c l).toList = some (pieces (elements c l)) := by
  rw [toList_document]
  refine Xml.read?_pieces (by simp [elements, pieces]) fun p hp => ?_
  exact isNamed_of_mem_vocabulary _ (shape_mem_vocabulary _ p hp)

/-- No text gets out of its place. An escaped text has none of the characters that end character data or a value, and
stands for the text itself. So the tags of a sheet and the names of their attributes depend on nothing but the numbers
of lines in its frames, and between the tags are the texts of the layout, or blanks. -/
theorem skeleton_document :
    (∀ s, Xml.Escapes (escape s) s ∧ escape s =
      substitute '\'' "&apos;" (substitute '"' "&quot;" (substitute '>' "&gt;" (substitute '<' "&lt;"
        (substitute '&' "&amp;" s))))) ∧
      ∃ pieces, read? (document c l).toList = some pieces ∧
        pieces.map (·.tag.shape) = skeleton (l.frames.map (·.lines.length)) ∧
        pieces.filterMap textOf? = [l.title, "template: " ++ l.template, l.title, l.template] ++
          l.frames.flatMap (fun f => f.heading :: f.lines) ∧
        ∀ p ∈ pieces, textOf? p = none → Xml.IsBlank p.data := by
  refine ⟨fun s => ⟨escapes s, escape_eq_substitute s⟩, pieces (elements c l), read?_document c l, ?_, ?_, ?_⟩
  · rw [map_shape_pieces, shapes_elements]
  · rw [filterMap_pieces, content_elements]
  · exact isBlank_of_textOf?_eq_none _

end

end SolidDrawing.Svg
