import SolidDrawing.Json
import SolidDrawing.Text.Quoted

/-!
# Decoding JSON values

How a JSON value is taken for a number, a text, a list or a record. A record may be written as an object or as the
list of its fields; `Fields` describes its fields once for both forms.

Of several faults in an object the one under the smallest key is reported. A field that is not there is reported only
when all values are good, the first such field before others.
-/

namespace SolidDrawing

/-- Why a value cannot be decoded. -/
inductive DecodeError where
  | invalidType (found : Json) (expected : String)
  /-- An object that should have exactly one member. -/
  | notSingleMember
  | unknownVariant (name : String) (known : List String)
  | missingField (name : String)
  /-- A field under two keys. -/
  | duplicateField (name : String)
  | invalidLength (length : Nat) (expected : String)

namespace DecodeError

/-- What a value is called in messages. -/
def describe : Json → String
  | .null => "null"
  | .bool b => if b then "boolean `true`" else "boolean `false`"
  | .whole n => "integer `" ++ toString n ++ "`"
  | .real x => "floating point `" ++ Json.realText x ++ "`"
  | .text s => "string " ++ Text.quoted false s
  | .list _ => "sequence"
  | .object _ => "map"

/-- The text of a decode error. -/
def message : DecodeError → String
  | invalidType found expected => "invalid type: " ++ describe found ++ ", expected " ++ expected
  | notSingleMember => "invalid value: map, expected map with a single key"
  | unknownVariant name known =>
    "unknown variant `" ++ name ++ "`, expected one of " ++ ", ".intercalate (known.map fun k => "`" ++ k ++ "`")
  | missingField name => "missing field `" ++ name ++ "`"
  | duplicateField name => "duplicate field `" ++ name ++ "`"
  | invalidLength length expected => "invalid length " ++ toString length ++ ", expected " ++ expected

end DecodeError

namespace Json

/-- A way to take a value for an `α`. -/
abbrev Decoder (α : Type) := Json → Except DecodeError α

namespace Decoder

/-- A number. -/
def number : Decoder Float
  | .whole n => .ok (Float.ofInt n)
  | .real x => .ok x
  | v => .error (.invalidType v "f64")

def bool : Decoder Bool
  | .bool b => .ok b
  | v => .error (.invalidType v "a boolean")

/-- A text, called `expected` in messages. -/
def textAs (expected : String) : Decoder String
  | .text s => .ok s
  | v => .error (.invalidType v expected)

def text : Decoder String := textAs "a string"

/-- The name of a file. -/
def path : Decoder String := textAs "path string"

/-- A list of values of one kind. -/
def list {α : Type} (item : Decoder α) : Decoder (List α)
  | .list items => items.mapM item
  | v => .error (.invalidType v "a sequence")

/-- A value that may be `null`. -/
def nullable {α : Type} (value : Decoder α) : Decoder (Option α)
  | .null => .ok none
  | v => (value v).map some

/-- Nothing, written as `null` or as an object without members. -/
def unit : Decoder Unit
  | .null => .ok ()
  | .object [] => .ok ()
  | v => .error (.invalidType v "unit")

end Decoder

/-- A fault in an object: a bad value under a key, or a field that is not there. -/
inductive MemberFault where
  | bad (key : String) (error : DecodeError)
  | missing (field : String)

namespace MemberFault

/-- Which of two faults is reported, if the first one belongs to earlier fields than the second. -/
def first : MemberFault → MemberFault → MemberFault
  | bad k e, bad k' e' => if k' < k then bad k' e' else bad k e
  | bad k e, missing _ => bad k e
  | missing _, bad k e => bad k e
  | missing f, missing _ => missing f

def error : MemberFault → DecodeError
  | bad _ e => e
  | missing f => .missingField f

end MemberFault

/-- How the items behind the last field of a list are reported. -/
inductive Excess where
  | array
  | sequence
  deriving Repr, DecidableEq

/-- A number of elements in words. -/
def elements (n : Nat) : String := if n = 1 then "1 element" else toString n ++ " elements"

/-- The error of a list of which only the first `read` items were read. -/
def Excess.error (length read : Nat) : Excess → DecodeError
  | array => .invalidLength length "fewer elements in array"
  | sequence => .invalidLength length (elements read ++ " in sequence")

/-- Fields of a record, in order, and how they make up an `α`. -/
structure Fields (α : Type) where
  /-- The number of fields. -/
  count : Nat
  /-- The fields from the members of an object. -/
  ofMembers : List (String × Json) → Except MemberFault α
  /-- The fields from the items of a list from some position on, and the items behind them. The first argument is the
  error of a list that ends at a position. -/
  ofItems : (Nat → DecodeError) → Nat → List Json → Except DecodeError (α × List Json)

namespace Fields

variable {α β : Type}

/-- No fields. -/
def const (a : α) : Fields α := ⟨0, fun _ => .ok a, fun _ _ items => .ok (a, items)⟩

/-- Some fields and then some more. -/
def andThen (f : Fields (α → β)) (x : Fields α) : Fields β :=
  ⟨f.count + x.count,
    fun members =>
      match f.ofMembers members, x.ofMembers members with
      | .ok g, .ok a => .ok (g a)
      | .ok _, .error fault => .error fault
      | .error fault, .ok _ => .error fault
      | .error fault, .error fault' => .error (fault.first fault'),
    fun short i items => do
      let (g, items) ← f.ofItems short i items
      let (a, items) ← x.ofItems short (i + f.count) items
      return (g a, items)⟩

instance : Pure Fields := ⟨const⟩

instance : Functor Fields where
  map f x := andThen (const f) x

instance : Seq Fields := ⟨fun f x => andThen f (x ())⟩

/-- One field, under any of the keys. Without it the value is `absent`; if that is not given, the field must be
there. The first key names the field. -/
def oneOf (name : String) (others : List String) (value : Decoder α) (absent : Option α) : Fields α :=
  ⟨1,
    fun members =>
      match members.filter fun m => m.1 == name || others.contains m.1 with
      | [] =>
        match absent with
        | some a => .ok a
        | none => .error (.missing name)
      | (key, v) :: rest =>
        match value v, rest with
        | .error e, _ => .error (.bad key e)
        | .ok a, [] => .ok a
        | .ok _, (key', _) :: _ => .error (.bad key' (.duplicateField name)),
    fun short i items =>
      match items, absent with
      | v :: rest, _ => (value v).map (·, rest)
      | [], some a => .ok (a, [])
      | [], none => .error (short i)⟩

/-- A field that must be there. -/
def required (name : String) (value : Decoder α) : Fields α := oneOf name [] value none

/-- A field that may be left out. -/
def optional (name : String) (value : Decoder α) (absent : α) : Fields α := oneOf name [] value (some absent)

/-- The fields of a record from a list that holds nothing else. -/
def ofList (fields : Fields α) (excess : Excess) (expected : String) (items : List Json) : Except DecodeError α := do
  let (a, rest) ← fields.ofItems (fun i => .invalidLength i expected) 0 items
  if rest.isEmpty then .ok a else .error (excess.error items.length fields.count)

end Fields

/-- A record with the given name and fields. Other members of an object do not matter. -/
def Decoder.record {α : Type} (excess : Excess) (name : String) (fields : Fields α) : Decoder α
  | .object members => (fields.ofMembers members).mapError MemberFault.error
  | .list items => fields.ofList excess ("struct " ++ name ++ " with " ++ elements fields.count) items
  | v => .error (.invalidType v ("struct " ++ name))

end Json

end SolidDrawing
