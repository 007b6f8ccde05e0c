import SolidDrawing.Job
import SolidDrawing.Json.Decode
import SolidDrawing.Json.Reader

/-!
# Decoding jobs

How descriptions and jobs are read from JSON. Before anything else is looked at, `screenSolid` goes through the
operations of the solid: it refuses a kind of operation that does not exist, and puts the axis of a hole, given in
either case, into its written form.
-/

namespace SolidDrawing

open Json (Decoder Fields Excess)
open Json.Fields (required optional)

/-- A vector as a list of its components. -/
def Vec3.decode (excess : Excess) : Decoder (Vec3 Float)
  | .list items =>
    (Vec3.mk <$> required "x" .number <*> required "y" .number <*> required "z" .number).ofList excess
      "a sequence of 3 f64 values" items
  | v => .error (.invalidType v "a sequence of 3 f64 values")

/-- One of several names. -/
def variant {α : Type} (known : List String) (find : String → Option α) (name : String) : Except DecodeError α :=
  match find name with
  | some a => .ok a
  | none => .error (.unknownVariant name known)

/-- An axis by its small letter, alone or as the key of an object that holds nothing else. -/
def Axis.decode : Decoder Axis
  | .text s => variant ["x", "y", "z"] Axis.ofLetter? s
  | .object [(key, payload)] => do
    let axis ← variant ["x", "y", "z"] Axis.ofLetter? key
    Decoder.unit payload
    return axis
  | .object _ => .error .notSingleMember
  | v => .error (.invalidType v "string or map")

def SketchCircle.fields : Fields (SketchCircle Float) :=
  SketchCircle.mk <$> required "radius" .number <*> optional "is_hole" .bool false

def Extrude.fields : Fields (Extrude Float) := Extrude.mk <$> required "length" .number

def BaseBox.fields : Fields (BaseBox Float) :=
  BaseBox.mk <$> required "width" .number <*> required "depth" .number <*> required "height" .number <*>
    optional "centered_xy" .bool true <*> optional "centered_z" .bool false

def CutBox.fields : Fields (CutBox Float) :=
  CutBox.mk <$> required "width" .number <*> required "depth" .number <*> required "height" .number <*>
    required "center" (Vec3.decode .sequence)

def ThroughHole.fields : Fields (ThroughHole Float) :=
  ThroughHole.mk <$> required "radius" .number <*> required "depth" .number <*> optional "axis" Axis.decode .z <*>
    optional "center" (Vec3.decode .sequence) .zero

/-- The kind of an operation by its name. -/
def OperationKind.decode : Decoder OperationKind
  | .text s => variant (all.map name) ofName? s
  | v => .error (.invalidType v "variant identifier")

/-- An operation of a known kind. -/
def OperationKind.decodeOperation (kind : OperationKind) (v : Json) : Except DecodeError (Operation Float) :=
  match kind with
  | sketchCircle => (Decoder.record .sequence kind.name SketchCircle.fields v).map .sketchCircle
  | extrude => (Decoder.record .sequence kind.name Extrude.fields v).map .extrude
  | baseBox => (Decoder.record .sequence kind.name BaseBox.fields v).map .baseBox
  | cutBox => (Decoder.record .sequence kind.name CutBox.fields v).map .cutBox
  | throughHole => (Decoder.record .sequence kind.name ThroughHole.fields v).map .throughHole

/-- An operation. Its kind is the member `type` of an object, or the first item of a list. -/
def Operation.decode : Decoder (Operation Float)
  | .object members =>
    match members.find? fun m => m.1 == "type" with
    | none => .error (.missingField "type")
    | some tag => do (← OperationKind.decode tag.2).decodeOperation (.object members)
  | .list [] => .error (.missingField "type")
  | .list (tag :: items) => do (← OperationKind.decode tag).decodeOperation (.list items)
  | v => .error (.invalidType v "internally tagged enum Operation")

def SolidSpec.fields : Fields (SolidSpec Float) :=
  SolidSpec.mk <$> required "id" .text <*> optional "operations" (.list Operation.decode) []

def SolidSpec.decode : Decoder (SolidSpec Float) := .record .array "SolidSpec" fields

def ViewSpec.fields : Fields (ViewSpec Float) :=
  ViewSpec.mk <$> required "id" .text <*> required "direction" (Vec3.decode .array) <*>
    optional "is_section" .bool false <*> optional "section_normal" (.nullable (Vec3.decode .array)) none <*>
    optional "scale" (.nullable .number) none

def ViewSpec.decode : Decoder (ViewSpec Float) := .record .array "ViewSpec" fields

def DimensionSpec.fields : Fields DimensionSpec :=
  DimensionSpec.mk <$> required "view_id" .text <*> required "kind" .text <*> required "label" .text <*>
    optional "edges" (.list .text) []

def DimensionSpec.decode : Decoder DimensionSpec := .record .array "DimensionSpec" fields

/-- The template has a second key that older jobs use. -/
def DrawingSpec.fields : Fields (DrawingSpec Float) :=
  DrawingSpec.mk <$> required "page_title" .text <*>
    Fields.oneOf "template_reference" ["template_path"] .text none <*> optional "views" (.list ViewSpec.decode) [] <*>
    optional "dimensions" (.list DimensionSpec.decode) []

def DrawingSpec.decode : Decoder (DrawingSpec Float) := .record .array "DrawingSpec" fields

def Job.fields : Fields Job :=
  Job.mk <$> required "solid" SolidSpec.decode <*> required "drawing" DrawingSpec.decode <*>
    required "output_pdf" .path <*> optional "output_svg" (.nullable .path) none

/-- What is wrong with the text of a job. -/
inductive JobFault where
  /-- The text is not JSON. -/
  | notJson
  | decode (error : DecodeError)
  | unsupportedOperation (kind : String)
  | invalidParameter (solid : String) (index : Nat) (fault : ParameterFault Float)

/-- The text of a fault. -/
def JobFault.message : JobFault → String
  | notJson => "Invalid job: not a JSON text"
  | decode error => "Invalid job: " ++ error.message
  | unsupportedOperation kind => "Unsupported operation type: " ++ kind
  | invalidParameter solid index fault =>
    "Invalid parameter in operation " ++ toString index ++ " of SolidSpec '" ++ solid ++ "': " ++ fault.message

/-- The value with another value under a key that it has. -/
def Json.replace (v : Json) (key : String) (other : Json) : Json :=
  match v with
  | .object members => .object (members.map fun m => if m.1 == key then (key, other) else m)
  | v => v

/-- A hole with its axis in the written form. -/
def screenAxis (solid : String) (index : Nat) (op : Json) : Except JobFault Json :=
  match op.get? "axis" with
  | some (.text literal) =>
    match Axis.parse literal with
    | .ok axis => .ok (op.replace "axis" (.text axis.letter))
    | .error fault => .error (.invalidParameter solid index fault)
  | _ => .ok op

/-- An operation of a kind that exists, with its axis in the written form. -/
def screenOperation (solid : String) (index : Nat) (op : Json) : Except JobFault Json :=
  match op.get? "type" with
  | none => .error (.unsupportedOperation "<missing>")
  | some (.text name) =>
    match OperationKind.ofName? name with
    | none => .error (.unsupportedOperation name)
    | some .throughHole => screenAxis solid index op
    | some _ => .ok op
  | some other => .error (.unsupportedOperation other.compact)

/-- Screens operations, the first of them at position `index`. -/
def screenOperations (solid : String) : Nat → List Json → Except JobFault (List Json)
  | _, [] => .ok []
  | index, op :: rest => do
    let op ← screenOperation solid index op
    let rest ← screenOperations solid (index + 1) rest
    return op :: rest

/-- Screens the operations of a solid that is written as an object with a list of operations. -/
def screenSolid (solid : Json) : Except JobFault Json :=
  match solid.get? "operations" with
  | some (.list ops) =>
    let id := ((solid.get? "id").bind Json.text?).getD ""
    (screenOperations id 0 ops).map fun ops => solid.replace "operations" (.list ops)
  | _ => .ok solid

namespace Job

/-- Decodes a job. -/
def decode (v : Json) : Except JobFault Job :=
  match v.get? "solid" with
  | none => .error (.decode (.missingField "solid"))
  | some solid => do
    let solid ← screenSolid solid
    (Decoder.record .array "Job" fields (v.replace "solid" solid)).mapError .decode

/-- Reads the text of a job. -/
def parse (s : String) : Except JobFault Job :=
  match Json.parse? s with
  | some v => decode v
  | none => .error .notJson

end Job

end SolidDrawing
