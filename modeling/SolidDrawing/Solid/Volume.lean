import SolidDrawing.Solid

/-!
# Volumes

The volume is the sum, over the cells of a grid in the `xy` plane, of the area of the cell times the length of the
vertical line through its middle that runs in the solid. The grid is uniform, and refined by the coordinates where a
part of the solid begins, has its middle or ends, so that each part has cells of its own.
-/

namespace SolidDrawing

variable {K : Type} [Scalar K]

/-- An interval of a grid, by its middle and its width. -/
structure Cell (K : Type) where
  middle : K
  width : K
  deriving Repr, BEq, DecidableEq

namespace Cell

/-- The values of a list without those equal to the one before. -/
def distinctFrom (x : K) : List K → List K
  | [] => [x]
  | y :: rest => if Scalar.same y x then distinctFrom x rest else x :: distinctFrom y rest

@[inherit_doc distinctFrom]
def distinct : List K → List K
  | [] => []
  | x :: rest => distinctFrom x rest

/-- The ends of `n` equal parts of `[lo, hi]`. -/
def uniformEdges (lo hi : K) (n : Nat) : List K :=
  (List.range (n + 1)).map fun i => lo + (hi - lo) * Scalar.ofCount i / Scalar.ofCount n

/-- The ends of the cells of `[lo, hi]`: at least one uniform cell, split at the breakpoints inside. -/
def edges (breaks : List K) (lo hi : K) (samples : Nat) : List K :=
  let inner := breaks.filter fun b => decide (lo < b) && decide (b < hi)
  distinct ((uniformEdges lo hi (max samples 1) ++ inner).mergeSort Scalar.orderLe)

/-- The cells between consecutive edges. -/
def between : List K → List (Cell K)
  | a :: b :: rest => ⟨(a + b) / 2, b - a⟩ :: between (b :: rest)
  | _ => []

end Cell

namespace Solid

mutual

/-- The `x` coordinates where a part begins, has its middle or ends. -/
def breaksX : Solid K → List K
  | cuboid box => [box.min.x, box.max.x]
  | cylinder plane center radius halfLength =>
    let r := if plane = .yz then halfLength else radius
    [center.x - r, center.x, center.x + r]
  | union parts => breaksXAll parts
  | difference target tool => target.breaksX ++ tool.breaksX

/-- The `x` coordinates of several solids. -/
def breaksXAll : List (Solid K) → List K
  | [] => []
  | part :: rest => part.breaksX ++ breaksXAll rest

end

mutual

/-- The `y` coordinates where a part begins, has its middle or ends. -/
def breaksY : Solid K → List K
  | cuboid box => [box.min.y, box.max.y]
  | cylinder plane center radius halfLength =>
    let r := if plane = .xz then halfLength else radius
    [center.y - r, center.y, center.y + r]
  | union parts => breaksYAll parts
  | difference target tool => target.breaksY ++ tool.breaksY

/-- The `y` coordinates of several solids. -/
def breaksYAll : List (Solid K) → List K
  | [] => []
  | part :: rest => part.breaksY ++ breaksYAll rest

end

/-- The sum over all cells, row by row. -/
@[specialize] def integrate (s : Solid K) (xs ys : List (Cell K)) : K :=
  xs.foldl (fun total x =>
    ys.foldl (fun total y => total + Spans.length (s.spansAt x.middle y.middle) * x.width * y.width) total) 0

/-- The volume of the solid, with at least `samples` cells along each side of the box around it. -/
def volume (samples : Nat) (s : Solid K) : K :=
  let box := s.bounds
  let size := box.size
  if size.x ≤ 0 ∨ size.y ≤ 0 then 0
  else
    s.integrate (Cell.between (Cell.edges s.breaksX box.min.x box.max.x samples))
      (Cell.between (Cell.edges s.breaksY box.min.y box.max.y samples))

end Solid

end SolidDrawing
