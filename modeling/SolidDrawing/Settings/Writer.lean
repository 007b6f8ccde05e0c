import SolidDrawing.Settings
import SolidDrawing.Text.Quoted

/-!
# Writing settings files

`Settings.text` writes all settings, one a line, in the form in which they are read.
-/

namespace SolidDrawing

/-- A record over several lines, its fields `indent` further in than its closing bracket. -/
def Settings.block (indent : String) (fields : List (String × String)) : String :=
  "(\n" ++ String.join (fields.map fun f => indent ++ "    " ++ f.1 ++ ": " ++ f.2 ++ ",\n") ++ indent ++ ")"

def KernelChoice.name : KernelChoice → String
  | csg => "Csg"
  | truck => "Truck"
  | null => "Null"

def RendererChoice.name : RendererChoice → String
  | sheet => "Sheet"
  | null => "Null"

def DuplicateViews.name : DuplicateViews → String
  | lastWins => "LastWins"
  | reject => "Reject"

def MissingNormal.name : MissingNormal → String
  | defer => "Defer"
  | reject => "Reject"

namespace Settings

/-- A number in a settings file. -/
def decimalText (x : Float) : String := Decimal.Style.pointedPlain.ofFloat x

def storeText (c : StoreConfig Float) : String :=
  block "    " [("samples_per_axis", toString c.samples), ("empty_volume", decimalText c.emptyVolume)]

def sheetText (c : SheetConfig Float) : String :=
  block "    "
    [("width_mm", decimalText c.width), ("height_mm", decimalText c.height), ("margin_mm", decimalText c.margin),
      ("title_block_mm", decimalText c.titleBlock), ("columns", toString c.columns),
      ("font_size_mm", decimalText c.fontSize)]

def policyText (p : Policy) : String :=
  block "    "
    [("duplicate_views", p.duplicateViews.name), ("missing_section_normal", p.missingSectionNormal.name)]

/-- The text of a settings file. -/
def text (s : Settings) : String :=
  block ""
    [("kernel", s.kernel.name), ("renderer", s.renderer.name), ("csg", storeText s.store),
      ("sheet", sheetText s.sheet), ("projector", policyText s.policy),
      ("log_filter", match s.logFilter with
        | none => "None"
        | some filter => "Some(" ++ Text.quoted true filter ++ ")")]

end Settings

end SolidDrawing
