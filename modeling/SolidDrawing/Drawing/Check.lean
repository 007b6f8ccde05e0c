import SolidDrawing.Drawing.Spec

/-!
# Checking descriptions of drawings

`DrawingSpec.fault?` finds the first fault of a description without any renderer: views in order, each for its
direction, section normal, scale, a repeated id and a missing section normal; then the dimensions in order.
-/

namespace SolidDrawing

/-- What to do with two views of one id. -/
inductive DuplicateViews where
  /-- Dimensions belong to the view that comes last. -/
  | lastWins
  | reject
  deriving Repr, DecidableEq

/-- What to do with a section that has no normal. -/
inductive MissingNormal where
  /-- The renderer chooses the cutting plane. -/
  | defer
  | reject
  deriving Repr, DecidableEq

/-- How strictly descriptions are checked. -/
structure Policy where
  duplicateViews : DuplicateViews := .lastWins
  missingSectionNormal : MissingNormal := .defer
  deriving Repr, DecidableEq

/-- Rejects whatever is open to doubt. -/
def Policy.strict : Policy := ⟨.reject, .reject⟩

/-- A part of a view that is out of range. -/
inductive ViewParameter where
  | direction
  | sectionNormal
  | scale
  deriving Repr, DecidableEq

/-- What is asked of the part. -/
def ViewParameter.rule : ViewParameter → String
  | direction => "direction must be finite and non-zero"
  | sectionNormal => "section normal must be finite and non-zero"
  | scale => "scale must be finite and positive"

/-- A fault in the description of a drawing. -/
inductive DrawingFault where
  | unknownView (viewId : String) (index : Nat)
  | duplicateViewId (id : String)
  | missingSectionNormal (view : String)
  | invalidView (view : String) (parameter : ViewParameter)
  deriving Repr, DecidableEq

/-- The text of a fault. -/
def DrawingFault.message : DrawingFault → String
  | unknownView viewId index => "Dimension " ++ toString index ++ " references unknown view '" ++ viewId ++ "'"
  | duplicateViewId id => "View id '" ++ id ++ "' is used more than once"
  | missingSectionNormal view => "Section view '" ++ view ++ "' has no section normal"
  | invalidView view parameter => "Invalid parameter in view '" ++ view ++ "': " ++ parameter.rule

variable {K : Type} [Scalar K]

/-- The first part of a view that is out of range. A section normal is checked in every view that has one. -/
def ViewSpec.invalid? (v : ViewSpec K) : Option ViewParameter :=
  if !v.direction.isUsable then some .direction
  else if v.sectionNormal.any fun n => !n.isUsable then some .sectionNormal
  else if v.scale.any fun s => !Scalar.isPositive s then some .scale
  else none

/-- The first fault of a view that follows views with the ids `seen`. -/
def ViewSpec.fault? (policy : Policy) (seen : List String) (v : ViewSpec K) : Option DrawingFault :=
  match v.invalid? with
  | some parameter => some (.invalidView v.id parameter)
  | none =>
    if seen.contains v.id && policy.duplicateViews == .reject then some (.duplicateViewId v.id)
    else if v.isSection && v.sectionNormal.isNone && policy.missingSectionNormal == .reject then
      some (.missingSectionNormal v.id)
    else none

/-- The first fault of views that follow views with the ids `seen`. -/
def viewsFault? (policy : Policy) : List String → List (ViewSpec K) → Option DrawingFault
  | _, [] => none
  | seen, v :: rest => v.fault? policy seen <|> viewsFault? policy (v.id :: seen) rest

/-- The first dimension, counted from `index`, that names none of the views with the given ids. -/
def dimensionsFault? (ids : List String) : Nat → List DimensionSpec → Option DrawingFault
  | _, [] => none
  | index, d :: rest =>
    if ids.contains d.viewId then dimensionsFault? ids (index + 1) rest else some (.unknownView d.viewId index)

/-- The first fault of a description. -/
def DrawingSpec.fault? (policy : Policy) (d : DrawingSpec K) : Option DrawingFault :=
  viewsFault? policy [] d.views <|> dimensionsFault? (d.views.map (·.id)) 0 d.dimensions

end SolidDrawing
