import SolidDrawing.Vec

/-!
# Descriptions of drawings

A drawing is one page with a title, a template, views of one solid and dimensions. A dimension names the view it
belongs to.
-/

namespace SolidDrawing

/-- A view on the page; `sectionNormal` only matters in a section. Without `scale` the renderer chooses one. -/
structure ViewSpec (K : Type) where
  id : String
  direction : Vec3 K
  isSection : Bool
  sectionNormal : Option (Vec3 K)
  scale : Option K
  deriving Repr, BEq, DecidableEq

/-- A dimension of the view `viewId`, of an abstract kind such as linear or diameter. Label and edges are passed on
as they are. -/
structure DimensionSpec where
  viewId : String
  kind : String
  label : String
  edges : List String
  deriving Repr, BEq, DecidableEq

/-- A drawing page. -/
structure DrawingSpec (K : Type) where
  pageTitle : String
  template : String
  views : List (ViewSpec K)
  dimensions : List DimensionSpec
  deriving Repr, BEq, DecidableEq

/-- A direction that can be looked along: finite, and of a length that is not zero. -/
def Vec3.isUsable {K : Type} [Scalar K] (v : Vec3 K) : Bool := v.isFinite && decide (0 < v.normSq)

end SolidDrawing
