import SolidDrawing.Kernel
import SolidDrawing.Solid.Volume

/-!
# The kernel of solid trees

A store holds solids as trees under handles that it draws from a supply of names. Every call that fails leaves the
store as it was. `Store.kernel` is the kernel over a store kept in the monad.
-/

namespace SolidDrawing

/-- How finely volumes are computed, and the volume up to which a solid counts as empty. -/
structure StoreConfig (K : Type) where
  samples : Nat
  emptyVolume : K
  deriving Repr, BEq, DecidableEq

/-- Solids under their names. `names` is the supply of names, of which `drawn` are used up. -/
structure Store (K : Type) where
  config : StoreConfig K
  names : Nat → SolidId
  drawn : Nat
  solids : List (SolidId × Solid K)

namespace Store

variable {K : Type}

/-- The name of the kernel. -/
def kernelName : String := "csg"

/-- A store that holds nothing and has drawn no name. -/
def empty (config : StoreConfig K) (names : Nat → SolidId) : Store K := ⟨config, names, 0, []⟩

/-- The number of solids held. -/
def count (s : Store K) : Nat := s.solids.length

/-- The solid under a handle. -/
def find (s : Store K) (r : SolidRef) : Except KernelError (Solid K) :=
  match s.solids.find? fun entry => entry.1 == r.id with
  | some entry => .ok entry.2
  | none => .error (.unknownSolid r.id)

/-- Puts a solid under the next name. -/
def insert (s : Store K) (solid : Solid K) : SolidRef × Store K :=
  let id := s.names s.drawn
  (⟨id, kernelName⟩, { s with drawn := s.drawn + 1, solids := (id, solid) :: s.solids })

/-- The store without its solids. -/
def clear (s : Store K) : Store K := { s with solids := [] }

@[simp] theorem count_insert (s : Store K) (solid : Solid K) : (s.insert solid).2.count = s.count + 1 := rfl

@[simp] theorem count_clear (s : Store K) : s.clear.count = 0 := rfl

theorem find_insert_self (s : Store K) (solid : Solid K) : (s.insert solid).2.find (s.insert solid).1 = .ok solid := by
  simp [find, insert]

theorem find_insert_of_ne (s : Store K) (solid : Solid K) {r : SolidRef} (h : r.id ≠ s.names s.drawn) :
    (s.insert solid).2.find r = s.find r := by
  have hne : (s.names s.drawn == r.id) = false := by simpa using Ne.symm h
  simp only [find, insert, List.find?_cons, hne]

@[simp] theorem find_clear (s : Store K) (r : SolidRef) : s.clear.find r = .error (.unknownSolid r.id) := rfl

variable [Scalar K]

/-- The solid that a swept profile makes: one cylinder for each circle. -/
def swept (profile : Profile K) (distance : K) (direction : Direction) : Solid K :=
  let ends := direction.span distance
  let middle := profile.offset + (ends.1 + ends.2) / 2
  let cylinder (c : Circle K) : Solid K :=
    .cylinder profile.plane (profile.plane.toWorld c.center middle) c.radius ((ends.2 - ends.1) / 2)
  match profile.circles with
  | [c] => cylinder c
  | cs => .union (cs.map cylinder)

/-- The point lies in the solid under a handle. -/
def contains (s : Store K) (r : SolidRef) (p : Vec3 K) : Except KernelError Bool :=
  (s.find r).map fun solid => solid.contains p

/-- The box around the solid under a handle. -/
def bounds (s : Store K) (r : SolidRef) : Except KernelError (Box K) := (s.find r).map Solid.bounds

/-- The volume of the solid under a handle and the box around it. -/
def measure (s : Store K) (r : SolidRef) : Except KernelError (MassProperties K) :=
  (s.find r).map fun solid => ⟨solid.volume s.config.samples, solid.bounds⟩

/-- What a call that makes a solid makes, or why it fails. -/
def made [DecimalText K] (s : Store K) : KernelCall K → Except KernelError (Solid K)
  | .extrude profile distance direction =>
    match profile.fault? with
    | some fault => .error (.invalidProfile fault.message)
    | none =>
      if Scalar.isPositive distance then .ok (swept profile distance direction)
      else .error (.operationFailed ("Extrusion distance must be positive, got " ++ DecimalText.text distance))
  | .createBox size centering =>
    if size.isPositive then
      let corner := centering.minCorner size
      .ok (.cuboid (.ofCorners corner (corner + size)))
    else .error (.operationFailed ("Box size must be positive, got " ++ bracketed size))
  | .subtract target tool => do
    let solid := Solid.difference (← s.find target) (← s.find tool)
    if solid.volume s.config.samples ≤ s.config.emptyVolume then
      .error (.booleanFailed "Cut leaves no material in the target solid")
    else .ok solid
  | .translate solid offset => (s.find solid).map (Solid.translated offset)
where
  /-- A vector in square brackets. -/
  bracketed (v : Vec3 K) : String :=
    "[" ++ DecimalText.text v.x ++ ", " ++ DecimalText.text v.y ++ ", " ++ DecimalText.text v.z ++ "]"

/-- Carries out a call that makes a solid. -/
def make [DecimalText K] (s : Store K) (call : KernelCall K) : Except KernelError SolidRef × Store K :=
  match s.made call with
  | .ok solid => let (r, s) := s.insert solid; (.ok r, s)
  | .error e => (.error e, s)

/-- The kernel over the store that the monad holds. -/
def kernel [DecimalText K] {m : Type → Type} [Monad m] [MonadStateOf (Store K) m] : Kernel K m :=
  let via (call : KernelCall K) : ExceptT KernelError m SolidRef :=
    (modifyGet fun (s : Store K) => s.make call : m (Except KernelError SolidRef))
  { name := kernelName
    available := true
    extrude := fun profile distance direction => via (.extrude profile distance direction)
    createBox := fun size centering => via (.createBox size centering)
    subtract := fun target tool => via (.subtract target tool)
    translate := fun solid offset => via (.translate solid offset)
    measure := fun solid => (modifyGet fun (s : Store K) => (s.measure solid, s) : m (Except KernelError _))
    bounds := fun solid => (modifyGet fun (s : Store K) => (s.bounds solid, s) : m (Except KernelError _))
    shutdown := modify fun (s : Store K) => s.clear }

end Store

end SolidDrawing
