import SolidDrawing.Main
import SolidDrawing.Settings.Writer
import SolidDrawing.Proofs.BuildCalls
import SolidDrawing.Proofs.CallPoints
import SolidDrawing.Proofs.ClearCells
import SolidDrawing.Proofs.DrawingCalls
import SolidDrawing.Proofs.JobFiles
import SolidDrawing.Proofs.PocketedBlocks
import SolidDrawing.Proofs.RefusedCuts
import SolidDrawing.Proofs.SessionCourses
import SolidDrawing.Proofs.SheetHistories
import SolidDrawing.Proofs.TightBounds
import SolidDrawing.Proofs.FloatOrder
import SolidDrawing.Proofs.FloatSpans
import SolidDrawing.Proofs.Screening
import SolidDrawing.Proofs.AxisSpelling
import SolidDrawing.Proofs.ThroughHoles
import SolidDrawing.Proofs.Renaming
import SolidDrawing.Proofs.MovedSolids
import SolidDrawing.Proofs.BuildFailures
import SolidDrawing.Proofs.FileFailures
import SolidDrawing.Proofs.DrawingRules
import SolidDrawing.Proofs.PagesApart
import SolidDrawing.Proofs.FrameCells
import SolidDrawing.Proofs.FittingLines
import SolidDrawing.Proofs.Markup
import SolidDrawing.Proofs.SheetMarkup
import SolidDrawing.Proofs.WellFormedSheets
import SolidDrawing.Proofs.Tilings
import SolidDrawing.Proofs.JobDefaults
