import SolidDrawing.Sheet.Layout

/-!
# Sheets as PDF

A sheet is one page of a PDF document. `Pdf.operators` draws a layout, with lengths still in millimetres but `y` growing
upwards; `Pdf.content` writes the operators in points. `Pdf.document` puts numbered objects one after the other and
closes with a stream that lists where each of them starts.
-/

namespace SolidDrawing.Pdf

/-- An operator of the page content. Lengths are in millimetres. -/
inductive Operator (K : Type) where
  | lineWidth (width : K)
  | rectangle (x y width height : K)
  | stroke
  | beginText
  | font (bold : Bool) (size : K)
  | moveTo (x y : K)
  | showText (bytes : List UInt8)
  | endText
  deriving Repr, BEq, DecidableEq

/-- A text in the encoding of the standard fonts: one byte for a character, and a question mark for those beyond. -/
def latin1 (s : String) : List UInt8 := s.toList.map fun c => if c.toNat < 256 then c.toNat.toUInt8 else 63

section Drawing

variable {K : Type} [Scalar K]

/-- Draws a rectangle on a sheet of the given height. -/
def drawRect (height : K) (r : Rect K) (width : K) : List (Operator K) :=
  [.lineWidth width, .rectangle r.x (height - (r.y + r.height)) r.width r.height, .stroke]

/-- Draws a text. -/
def drawText (c : SheetConfig K) (x y : K) (s : String) (bold : Bool) : List (Operator K) :=
  [.beginText, .font bold c.fontSize, .moveTo x (c.height - y), .showText (latin1 s), .endText]

/-- Draws lines of text below one another, the first of them one step below `y`. -/
def drawLines (c : SheetConfig K) (x : K) : K → List String → List (Operator K)
  | _, [] => []
  | y, s :: rest => drawText c x (y + c.lineHeight) s false ++ drawLines c x (y + c.lineHeight) rest

/-- Draws a frame. -/
def drawFrame (c : SheetConfig K) (f : Frame K) : List (Operator K) :=
  let x := f.rect.x + c.lineHeight
  let y := f.rect.y + 1.5 * c.lineHeight
  drawRect c.height f.rect 0.25 ++ drawText c x y f.heading true ++ drawLines c x y f.lines

/-- Draws a sheet. -/
def operators (c : SheetConfig K) (l : Layout K) : List (Operator K) :=
  let step := c.lineHeight
  let block := l.titleBlock
  drawRect c.height l.border 0.7 ++ drawRect c.height block 0.5 ++
    drawText c (block.x + step) (block.y + 1.5 * step) l.title true ++
    drawText c (block.x + step) (block.y + 2.7 * step) l.template false ++ l.frames.flatMap (drawFrame c)

end Drawing

/-- Points in a millimetre. -/
def pointsPerMillimetre : Float := 72.0 / 25.4

/-- A length in points, as it is written. -/
def points (millimetres : Float) : String := Decimal.Style.plain.ofFloat32 (millimetres * pointsPerMillimetre).toFloat32

/-- An ASCII text as bytes. -/
def ascii (s : String) : List UInt8 := s.toUTF8.toList

/-- With one parenthesis open, and `depth` more inside it, the bytes close it. -/
def closes : Nat → List UInt8 → Bool
  | _, [] => false
  | depth, b :: rest =>
    if b = 40 then closes (depth + 1) rest
    else if b = 41 then
      match depth with
      | 0 => true
      | depth + 1 => closes depth rest
    else closes depth rest

/-- The inside of a literal string: a backslash stands before a backslash and before a parenthesis without its
partner, and a carriage return is written as a letter. `depth` parentheses with partners are open. -/
def literalBody : Nat → List UInt8 → List UInt8
  | _, [] => []
  | depth, b :: rest =>
    if b = 40 then
      if closes 0 rest then 40 :: literalBody (depth + 1) rest else 92 :: 40 :: literalBody depth rest
    else if b = 41 then
      match depth with
      | 0 => 92 :: 41 :: literalBody 0 rest
      | depth + 1 => 41 :: literalBody depth rest
    else if b = 92 then 92 :: 92 :: literalBody depth rest
    else if b = 13 then 92 :: 114 :: literalBody depth rest
    else b :: literalBody depth rest

/-- A literal string. -/
def literal (bytes : List UInt8) : List UInt8 := 40 :: literalBody 0 bytes ++ [41]

/-- The line of an operator. -/
def Operator.line : Operator Float → List UInt8
  | lineWidth width => ascii (points width ++ " w")
  | rectangle x y width height =>
    ascii (points x ++ " " ++ points y ++ " " ++ points width ++ " " ++ points height ++ " re")
  | stroke => ascii "S"
  | beginText => ascii "BT"
  | font bold size => ascii ((if bold then "/F2 " else "/F1 ") ++ points size ++ " Tf")
  | moveTo x y => ascii (points x ++ " " ++ points y ++ " Td")
  | showText bytes => literal bytes ++ ascii " Tj"
  | endText => ascii "ET"

/-- Lines with line ends between them. -/
def joinLines : List (List UInt8) → List UInt8
  | [] => []
  | [line] => line
  | line :: rest => line ++ 10 :: joinLines rest

/-- The content of the page. -/
def content (c : SheetConfig Float) (l : Layout Float) : List UInt8 := joinLines ((operators c l).map Operator.line)

/-- A stream behind the other entries of its dictionary. -/
def stream (entries : String) (bytes : List UInt8) : List UInt8 :=
  ascii ("<<" ++ entries ++ "/Length " ++ toString bytes.length ++ ">>stream\n") ++ bytes ++ ascii "\nendstream "

/-- The objects of the document in the order of their numbers, from `1` on. -/
def objects (c : SheetConfig Float) (l : Layout Float) : List (List UInt8) :=
  let font (name : String) : List UInt8 :=
    ascii ("<</Type/Font/Subtype/Type1/BaseFont/" ++ name ++ "/Encoding/WinAnsiEncoding>>")
  [ascii "<</Type/Pages/Kids[6 0 R]/Count 1>>",
    font "Helvetica",
    font "Helvetica-Bold",
    ascii "<</Font<</F1 2 0 R/F2 3 0 R>>>>",
    stream "" (content c l),
    ascii ("<</Type/Page/Parent 1 0 R/MediaBox[0 0 " ++ points c.width ++ " " ++ points c.height ++
      "]/Contents 5 0 R/Resources 4 0 R>>"),
    ascii "<</Type/Catalog/Pages 1 0 R>>",
    ascii "<</Title" ++ literal (latin1 l.title) ++ ascii "/Subject" ++ literal (latin1 l.template) ++ ascii ">>"]

/-- The beginning of the document: its version, and bytes that mark it as binary. -/
def header : List UInt8 := ascii "%PDF-1.5\n%" ++ [0xBB, 0xAD, 0xC0, 0xDE, 10]

/-- An object under its number. -/
def numbered (number : Nat) (body : List UInt8) : List UInt8 :=
  ascii (toString number ++ " 0 obj\n") ++ body ++ ascii "\nendobj\n"

/-- Objects numbered from `number` on. -/
def numberedFrom : Nat → List (List UInt8) → List (List UInt8)
  | _, [] => []
  | number, body :: rest => numbered number body :: numberedFrom (number + 1) rest

/-- Where each of the parts starts if the first one starts at `start`, and where the last one ends. -/
def starts : Nat → List (List UInt8) → List Nat
  | start, [] => [start]
  | start, part :: rest => start :: starts (start + part.length) rest

/-- A start in the list of objects: its kind, four bytes with the highest first, and a generation. -/
def startEntry (start : Nat) : List UInt8 :=
  [1, (start >>> 24).toUInt8, (start >>> 16).toUInt8, (start >>> 8).toUInt8, start.toUInt8, 0, 0]

/-- The document of a sheet. -/
def document (c : SheetConfig Float) (l : Layout Float) : List UInt8 :=
  let parts := numberedFrom 1 (objects c l)
  let offsets := starts header.length parts
  let index := numbered 9 (stream "/Root 7 0 R/Info 8 0 R/Type/XRef/Size 10/W[1 4 2]/Index[1 9]"
    (offsets.flatMap startEntry))
  header ++ parts.flatten ++ index ++ ascii ("\nstartxref\n" ++ toString (offsets.getLastD 0) ++ "\n%%EOF")

end SolidDrawing.Pdf
