import SolidDrawing.Drawing.Check
import SolidDrawing.Kernel.Store
import SolidDrawing.Sheet.Layout

/-!
# Settings

What a job runs with: which kernel and which renderer, the measures of both, how strictly drawings are checked, and
what is logged. Every setting has a default.
-/

namespace SolidDrawing

/-- The kernels that settings can name. -/
inductive KernelChoice where
  /-- The kernel of solid trees. -/
  | csg
  /-- A kernel for curved boundaries, which this build does not have. -/
  | truck
  /-- No kernel. -/
  | null
  deriving Repr, DecidableEq

/-- The renderers that settings can name. -/
inductive RendererChoice where
  | sheet
  /-- No renderer. -/
  | null
  deriving Repr, DecidableEq

/-- A volume counts as empty up to `0.000000001`, and `256` samples are taken along each side. -/
def StoreConfig.default : StoreConfig Float := ⟨256, 1e-9⟩

/-- The sheet size A4, lying on its side. -/
def SheetConfig.a4 : SheetConfig Float := ⟨297, 210, 10, 20, 2, 3.5⟩

/-- The sheet size A3, lying on its side. -/
def SheetConfig.a3 : SheetConfig Float := { SheetConfig.a4 with width := 420, height := 297, columns := 3 }

/-- What a job runs with. -/
structure Settings where
  kernel : KernelChoice := .csg
  renderer : RendererChoice := .sheet
  store : StoreConfig Float := .default
  sheet : SheetConfig Float := .a4
  policy : Policy := {}
  logFilter : Option String := none

/-- Why settings cannot be used. -/
inductive SettingsError where
  | io (reason : String)
  | malformed
  | kernelUnavailable (kernel : String)
  deriving Repr, DecidableEq

/-- The text of a settings error. -/
def SettingsError.message : SettingsError → String
  | io reason => "IO error: " ++ reason
  | malformed => "Deserialization error: malformed settings"
  | kernelUnavailable kernel => "Kernel '" ++ kernel ++ "' is not compiled into this build"

namespace Settings

/-- What is logged unless something else is asked for. -/
def defaultLogFilter : String := "de_job=info,de_cad=info,de_draw=info"

/-- What is logged. -/
def effectiveLogFilter (s : Settings) : String := s.logFilter.getD defaultLogFilter

/-- The same settings, numbers compared by value. -/
def same (s t : Settings) : Bool :=
  s.kernel == t.kernel && s.renderer == t.renderer && s.store == t.store && s.sheet == t.sheet &&
    s.policy == t.policy && s.logFilter == t.logFilter

variable {m : Type → Type} [Monad m]

/-- The kernel that the settings name, over a store that the monad holds. -/
def kernelIn [MonadStateOf (Store Float) m] (s : Settings) : Except SettingsError (Kernel Float m) :=
  match s.kernel with
  | .csg => .ok Store.kernel
  | .null => .ok .absent
  | .truck => .error (.kernelUnavailable "truck")

end Settings

end SolidDrawing
