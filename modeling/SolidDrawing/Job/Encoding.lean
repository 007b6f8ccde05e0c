import SolidDrawing.Job
import SolidDrawing.Json

/-!
# Jobs as JSON

The JSON form of descriptions, jobs and reports. Every field is written, absent ones as `null`; an operation carries
its kind in the member `type`, and a vector is a list of three numbers.
-/

namespace SolidDrawing

/-- A vector as a list of its components. -/
def Vec3.toJson (v : Vec3 Float) : Json := .list [.ofFloat v.x, .ofFloat v.y, .ofFloat v.z]

/-- A value that may be absent. -/
def Json.ofOption {α : Type} (encode : α → Json) : Option α → Json
  | none => .null
  | some a => encode a

/-- The fields of an operation without its kind. -/
def Operation.fields : Operation Float → List (String × Json)
  | .sketchCircle c => [("radius", .ofFloat c.radius), ("is_hole", .bool c.isHole)]
  | .extrude e => [("length", .ofFloat e.length)]
  | .baseBox b =>
    [("width", .ofFloat b.width), ("depth", .ofFloat b.depth), ("height", .ofFloat b.height),
      ("centered_xy", .bool b.centeredXy), ("centered_z", .bool b.centeredZ)]
  | .cutBox c =>
    [("width", .ofFloat c.width), ("depth", .ofFloat c.depth), ("height", .ofFloat c.height),
      ("center", c.center.toJson)]
  | .throughHole h =>
    [("radius", .ofFloat h.radius), ("depth", .ofFloat h.depth), ("axis", .text h.axis.letter),
      ("center", h.center.toJson)]

def Operation.toJson (op : Operation Float) : Json := .object (("type", .text op.kind.name) :: op.fields)

def SolidSpec.toJson (s : SolidSpec Float) : Json :=
  .object [("id", .text s.id), ("operations", .list (s.operations.map Operation.toJson))]

def ViewSpec.toJson (v : ViewSpec Float) : Json :=
  .object
    [("id", .text v.id), ("direction", v.direction.toJson), ("is_section", .bool v.isSection),
      ("section_normal", .ofOption Vec3.toJson v.sectionNormal), ("scale", .ofOption .ofFloat v.scale)]

def DimensionSpec.toJson (d : DimensionSpec) : Json :=
  .object
    [("view_id", .text d.viewId), ("kind", .text d.kind), ("label", .text d.label),
      ("edges", .list (d.edges.map .text))]

def DrawingSpec.toJson (d : DrawingSpec Float) : Json :=
  .object
    [("page_title", .text d.pageTitle), ("template_reference", .text d.template),
      ("views", .list (d.views.map ViewSpec.toJson)), ("dimensions", .list (d.dimensions.map DimensionSpec.toJson))]

def Job.toJson (j : Job) : Json :=
  .object
    [("solid", j.solid.toJson), ("drawing", j.drawing.toJson), ("output_pdf", .text j.pdf),
      ("output_svg", .ofOption .text j.svg)]

def JobReport.toJson (r : JobReport) : Json :=
  .object
    [("output_pdf", .text r.pdf), ("output_svg", .ofOption .text r.svg), ("solid", r.solid.toJson),
      ("drawing", r.drawing.toJson)]

end SolidDrawing
