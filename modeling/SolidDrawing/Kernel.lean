import SolidDrawing.Box
import SolidDrawing.Profile
import SolidDrawing.Decimal.Text

/-!
# Kernels

A kernel makes solids and holds them. Here it is a record of actions in some monad: whoever builds a solid knows
nothing else about it, not even what a handle stands for. `Kernel.absent` refuses every call, `Kernel.traced` keeps a
record of the calls, and `Kernel.failingAt` makes one of them fail.
-/

namespace SolidDrawing

/-- The identity of a solid that a kernel holds. -/
structure SolidId where
  name : String
  deriving Repr, DecidableEq

/-- A handle to a solid: its identity and the name of the kernel that holds it. -/
structure SolidRef where
  id : SolidId
  kernel : String
  deriving Repr, DecidableEq

/-- Why a kernel refuses a call. -/
inductive KernelError where
  | invalidProfile (reason : String)
  | booleanFailed (reason : String)
  | notAvailable (reason : String)
  | operationFailed (reason : String)
  | unknownSolid (id : SolidId)
  deriving Repr, DecidableEq

/-- The text of a kernel error. -/
def KernelError.message : KernelError → String
  | invalidProfile reason => "Invalid profile: " ++ reason
  | booleanFailed reason => "Boolean operation failed: " ++ reason
  | notAvailable reason => "Kernel not available: " ++ reason
  | operationFailed reason => "Operation failed: " ++ reason
  | unknownSolid id => "Unknown solid: " ++ id.name

/-- The text of a profile fault. -/
def ProfileFault.message {K : Type} [DecimalText K] : ProfileFault K → String
  | empty => "Profile contains no circles"
  | degenerate radius => "Degenerate circle (radius " ++ DecimalText.text radius ++ ") in profile"

/-- The volume of a solid and the box around it. -/
structure MassProperties (K : Type) where
  volume : K
  bounds : Box K
  deriving Repr, BEq, DecidableEq

/-- A kernel over the coordinates `K`, acting in `m`. -/
structure Kernel (K : Type) (m : Type → Type) where
  name : String
  /-- The kernel can be used at all. -/
  available : Bool
  /-- Sweeps a filled profile along its normal. -/
  extrude : Profile K → K → Direction → ExceptT KernelError m SolidRef
  /-- Makes a box of the given size at the origin. -/
  createBox : Vec3 K → Centering → ExceptT KernelError m SolidRef
  /-- `subtract target tool` takes the tool away from the target. -/
  subtract : SolidRef → SolidRef → ExceptT KernelError m SolidRef
  /-- Moves a solid. -/
  translate : SolidRef → Vec3 K → ExceptT KernelError m SolidRef
  measure : SolidRef → ExceptT KernelError m (MassProperties K)
  bounds : SolidRef → ExceptT KernelError m (Box K)
  /-- Gives up everything the kernel holds. -/
  shutdown : m Unit

/-- A call that makes a solid. -/
inductive KernelCall (K : Type) where
  | extrude (profile : Profile K) (distance : K) (direction : Direction)
  | createBox (size : Vec3 K) (centering : Centering)
  | subtract (target tool : SolidRef)
  | translate (solid : SolidRef) (offset : Vec3 K)
  deriving Repr, BEq, DecidableEq

/-- A call to a kernel, with its answer if it makes a solid. -/
inductive KernelEvent (K : Type) where
  | made (call : KernelCall K) (answer : Except KernelError SolidRef)
  | measured (solid : SolidRef)
  | bounded (solid : SolidRef)
  | shutdown

namespace Kernel

variable {K : Type} {m : Type → Type} [Monad m]

/-- The kernel of a build without kernels: it is not available and refuses every call. -/
def absent : Kernel K m :=
  let refuse {α : Type} : ExceptT KernelError m α := throw (.notAvailable "No CAD kernel available")
  { name := "null"
    available := false
    extrude := fun _ _ _ => refuse
    createBox := fun _ _ => refuse
    subtract := fun _ _ => refuse
    translate := fun _ _ => refuse
    measure := fun _ => refuse
    bounds := fun _ => refuse
    shutdown := pure () }

/-- Carries out a call that makes a solid. -/
def make (k : Kernel K m) : KernelCall K → ExceptT KernelError m SolidRef
  | .extrude profile distance direction => k.extrude profile distance direction
  | .createBox size centering => k.createBox size centering
  | .subtract target tool => k.subtract target tool
  | .translate solid offset => k.translate solid offset

/-- A kernel whose calls that make solids go through `via`. -/
def ofMake {n : Type → Type} (k : Kernel K m) (via : KernelCall K → ExceptT KernelError n SolidRef)
    (measure : SolidRef → ExceptT KernelError n (MassProperties K)) (bounds : SolidRef → ExceptT KernelError n (Box K))
    (shutdown : n Unit) : Kernel K n :=
  { name := k.name
    available := k.available
    extrude := fun profile distance direction => via (.extrude profile distance direction)
    createBox := fun size centering => via (.createBox size centering)
    subtract := fun target tool => via (.subtract target tool)
    translate := fun solid offset => via (.translate solid offset)
    measure
    bounds
    shutdown }

/-- The kernel with a record of all calls, the latest one first. -/
def traced (k : Kernel K m) : Kernel K (StateT (List (KernelEvent K)) m) :=
  k.ofMake
    (fun call log => do
      let answer ← (k.make call).run
      return (answer, .made call answer :: log))
    (fun solid log => do return (← (k.measure solid).run, .measured solid :: log))
    (fun solid log => do return (← (k.bounds solid).run, .bounded solid :: log))
    (fun log => do
      k.shutdown
      return ((), .shutdown :: log))

/-- The kernel whose call number `n` that makes a solid, counted from `0`, is not carried out and fails with `e`. -/
def failingAt (k : Kernel K m) (n : Option Nat) (e : KernelError) : Kernel K (StateT Nat m) :=
  k.ofMake
    (fun call count => do return (← if n = some count then pure (.error e) else (k.make call).run, count + 1))
    (fun solid count => do return (← (k.measure solid).run, count))
    (fun solid count => do return (← (k.bounds solid).run, count))
    (fun count => do
      k.shutdown
      return ((), count))

end Kernel

end SolidDrawing
