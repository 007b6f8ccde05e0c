import SolidDrawing.Scalar

/-!
# Spans

Lists of closed intervals on a line. In normal form the intervals are not empty, come in order and keep apart
(`Spans.IsNormal`); `Spans.union` of any lists is normal, and `Spans.difference` of normal lists is.
-/

namespace SolidDrawing

/-- A closed interval. -/
structure Span (K : Type) where
  lo : K
  hi : K
  deriving Repr, BEq, DecidableEq

/-- Intervals on a line. -/
abbrev Spans (K : Type) := List (Span K)

variable {K : Type} [Scalar K]

namespace Span

/-- The value lies in the interval. -/
def Covers (s : Span K) (x : K) : Prop := s.lo ≤ x ∧ x ≤ s.hi

/-- The interval as a list: none when it has no inside. -/
@[inline] def toSpans (s : Span K) : Spans K := if s.lo < s.hi then [s] else []

end Span

namespace Spans

/-- The value lies in one of the intervals. -/
def Covers (spans : Spans K) (x : K) : Prop := ∃ s ∈ spans, s.Covers x

/-- Not empty, in order, and each interval ends before the next one begins. -/
def IsNormal (spans : Spans K) : Prop := (∀ s ∈ spans, s.lo < s.hi) ∧ spans.Pairwise fun s t => s.hi < t.lo

/-- Joins intervals that come in the order of their lower ends to `open`, as far as they touch. -/
@[specialize] def mergeFrom (current : Span K) : Spans K → Spans K
  | [] => [current]
  | s :: rest =>
    if s.lo ≤ current.hi then mergeFrom ⟨current.lo, Scalar.larger current.hi s.hi⟩ rest
    else current :: mergeFrom s rest

/-- Joins intervals that come in the order of their lower ends, where they touch. -/
@[specialize] def merge : Spans K → Spans K
  | [] => []
  | s :: rest => mergeFrom s rest

/-- What either list covers. -/
@[specialize] def union (a b : Spans K) : Spans K :=
  merge ((a ++ b).mergeSort fun s t => Scalar.orderLe s.lo t.lo)

/-- What is left of `[lo, hi]` between the intervals of a list in order. -/
@[specialize] def cut (lo hi : K) : Spans K → Spans K
  | [] => if lo < hi then [⟨lo, hi⟩] else []
  | c :: rest =>
    if c.hi ≤ lo ∨ hi ≤ c.lo then cut lo hi rest
    else
      let kept := if lo < c.lo then [⟨lo, c.lo⟩] else []
      let next := Scalar.larger lo c.hi
      if hi ≤ next then kept else kept ++ cut next hi rest

/-- What the first list covers and the second does not. -/
@[specialize] def difference (a b : Spans K) : Spans K := a.flatMap fun s => cut s.lo s.hi b

/-- The total length. -/
@[specialize] def length (spans : Spans K) : K := spans.foldl (fun total s => total + (s.hi - s.lo)) 0

end Spans

end SolidDrawing
