import SolidDrawing.Job.Decoding
import SolidDrawing.Drawing.Project
import SolidDrawing.Settings
import SolidDrawing.Sheet.Pages

/-!
# Running jobs

`Job.run` builds the solid of a job inside a session with a kernel and draws it inside a session with a renderer, so
that the solid is there until the page is written. `Settings.runJob` does so with the kernel and the renderer that
settings name, on an empty `Bench`.
-/

namespace SolidDrawing

/-- Why a job is not finished. -/
inductive JobError where
  | invalid (fault : JobFault)
  | build (error : BuildError Float)
  | kernel (error : KernelError)
  | project (error : ProjectError)
  | renderer (error : RenderError)
  | settings (error : SettingsError)
  | io (reason : String)

/-- The text of a job error. -/
def JobError.message : JobError → String
  | invalid fault => fault.message
  | build error => error.message
  | kernel error => error.message
  | project error => error.message
  | renderer error => error.message
  | settings error => error.message
  | io reason => "IO error: " ++ reason

/-- The outcome of a step, with its fault explained by `f`. -/
def liftAs {ε ε' α : Type} {m : Type → Type} [Monad m] (f : ε → ε') (r : Except ε α) : ExceptT ε' m α :=
  ExceptT.mk (pure (r.mapError f))

/-- The text of a path from the root on. -/
def absolutePath (directory path : String) : Except String String :=
  match Path.absolute? directory path with
  | some text => .ok text
  | none => .error (path ++ ": cannot make an empty path absolute")

/-- Measures a solid for the log: its volume and the box around it, or only the box where there is no volume to be had.
Nothing depends on the answers. -/
def Kernel.survey {K : Type} {m : Type → Type} [Monad m] (k : Kernel K m) (solid : SolidRef) : m Unit := do
  match ← (k.measure solid).run with
  | .ok _ => pure ()
  | .error _ =>
    let _ ← (k.bounds solid).run

/-- Runs a job with a kernel, if there is one, and a renderer. The directory of the page is made as soon as the solid
is built and measured. -/
def Job.run {m : Type → Type} [Monad m] (fs : FileSystem m) (kernel : Except SettingsError (Kernel Float m))
    (renderer : Renderer Float m) (policy : Policy) (job : Job) : ExceptT JobError m JobReport := do
  let pdf ← liftAs .io (absolutePath fs.directory job.pdf)
  let svg ← liftAs .io (job.svg.mapM (absolutePath fs.directory))
  let kernel ← liftAs .settings kernel
  kernel.within .kernel do
    let solid ← (kernel.build job.solid).adapt .build
    kernel.survey solid
    match Path.parent? ⟨pdf⟩ with
    | some parent => (fs.makeDirectories parent).adapt .io
    | none => pure ()
    renderer.within .renderer do
      let _ ← (renderer.project policy solid job.drawing ⟨some pdf, svg⟩).adapt .project
  return ⟨pdf, svg, job.solid, job.drawing⟩

/-- The solids and the pages of one job. -/
abbrev Bench (m : Type → Type) := StateT (Store Float) (StateT (Sheets Float) m)

/-- Supplies of names for solids and for what is on pages. -/
structure JobNames where
  solid : Nat → SolidId
  sheet : SheetNames

/-- Names made of the kind and a number. -/
def JobNames.numbered : JobNames := ⟨fun n => ⟨"solid" ++ toString n⟩, .numbered⟩

namespace Settings

/-- The renderer that the settings name, over the pages that the monad holds. -/
def rendererIn {m : Type → Type} [Monad m] [MonadStateOf (Sheets Float) m] (s : Settings) (fs : FileSystem m) :
    Renderer Float m :=
  match s.renderer with
  | .sheet => Sheets.renderer fs
  | .null => .absent

/-- Runs a job as settings say, on an empty bench. -/
def runJob {m : Type → Type} [Monad m] (s : Settings) (fs : FileSystem m) (names : JobNames) (job : Job) :
    ExceptT JobError m JobReport :=
  let fs : FileSystem (Bench m) := fs.lift
  let run : ExceptT JobError (Bench m) JobReport := job.run fs s.kernelIn (s.rendererIn fs) s.policy
  ExceptT.mk ((run.run.run' (.empty s.store names.solid)).run' (.empty s.sheet names.sheet))

end Settings

end SolidDrawing
