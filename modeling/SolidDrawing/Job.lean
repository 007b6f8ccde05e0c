import SolidDrawing.Plan
import SolidDrawing.Drawing.Spec

/-!
# Jobs

A job asks for one solid and one drawing of it, and names the files to write. Its report repeats both with the paths
that were written.
-/

namespace SolidDrawing

/-- A solid, its drawing, and where the drawing goes. -/
structure Job where
  solid : SolidSpec Float
  drawing : DrawingSpec Float
  pdf : String
  svg : Option String

/-- What a finished job reports. -/
structure JobReport where
  pdf : String
  svg : Option String
  solid : SolidSpec Float
  drawing : DrawingSpec Float

end SolidDrawing
