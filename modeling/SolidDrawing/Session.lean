import SolidDrawing.Builder

/-!
# Sessions

A session owns a kernel or a renderer for one piece of work and shuts it down exactly once: when it is closed, or when
its owner lets go of it. `Session.within` opens a session around an action and closes it whatever the action answers.
-/

namespace SolidDrawing

/-- Whether the session has shut down what it owns. -/
structure Session where
  closed : Bool
  deriving Repr, DecidableEq

namespace Session

variable {m : Type → Type} [Monad m]

/-- A session that owns something running. -/
def opened : Session := ⟨false⟩

/-- Shuts down what the session owns, unless that was done before. -/
def teardown (shutdown : m Unit) (s : Session) : m Session :=
  if s.closed then pure s
  else do
    shutdown
    return ⟨true⟩

/-- The owner lets go of the session. -/
def drop (shutdown : m Unit) (s : Session) : m Unit := do
  let _ ← s.teardown shutdown

/-- The owner closes the session, and lets go of it. -/
def close (shutdown : m Unit) (s : Session) : m Unit := do
  let s ← s.teardown shutdown
  s.drop shutdown

/-- Runs an action inside a session that `refusal` may refuse to open. -/
def within {ε α : Type} (refusal : Option ε) (shutdown : m Unit) (action : ExceptT ε m α) : ExceptT ε m α :=
  match refusal with
  | some e => throw e
  | none => ExceptT.mk do
    let result ← action.run
    opened.close shutdown
    return result

end Session

namespace Kernel

variable {K : Type} {m : Type → Type} [Monad m] (k : Kernel K m)

/-- Why no session with the kernel can be opened, if so. -/
def refusal? : Option KernelError :=
  if k.available then none else some (.notAvailable ("Kernel '" ++ k.name ++ "' is not available"))

/-- Runs an action inside a session with the kernel. -/
def within {ε α : Type} (ofKernel : KernelError → ε) (action : ExceptT ε m α) : ExceptT ε m α :=
  Session.within (k.refusal?.map ofKernel) k.shutdown action

end Kernel

end SolidDrawing
