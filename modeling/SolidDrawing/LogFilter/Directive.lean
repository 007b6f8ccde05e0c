import SolidDrawing.Decimal.Reader
import SolidDrawing.LogFilter.Pattern
import SolidDrawing.Text.Slice

/-!
# Directives of log filters

A directive says up to which level the part of a program with a given name, its target, is logged; without a target it
is about all parts. Behind the target there may be a span in square brackets, perhaps with a field in braces. Then the
directive says nothing about what is logged outside of spans, unless it names a field without a value and no span: then
it is about what is logged with such a field.

Where the parts of a directive end is found in its text without the blanks around it, but they are cut out of its whole
text at the same places. So blanks in front move every part, and a place inside of a character cannot be cut at
(`DirectiveFault.insideCharacter`).
-/

namespace SolidDrawing

/-- Levels of logging, the most severe first. -/
inductive LogLevel where
  | off
  | error
  | warn
  | info
  | debug
  | trace
  deriving Repr, DecidableEq

/-- A level by its number or its name. -/
def LogLevel.parse? (s : String) : Option LogLevel :=
  let digits := if s.startsWith "+" then s.toList.drop 1 else s.toList
  if !digits.isEmpty && digits.all Char.isDigit then
    [off, error, warn, info, debug, trace][Decimal.digitsValue digits]?
  else
    match Text.lowerAscii s with
    | "off" => some off
    | "error" => some error
    | "warn" => some warn
    | "info" => some info
    | "debug" => some debug
    | "trace" => some trace
    | _ => none

/-- What a directive is about, its target apart. -/
inductive LogScope where
  /-- Whatever is logged. -/
  | everything
  /-- What is logged with a field of the given name. -/
  | withField (name : String)
  /-- What is logged inside of spans. -/
  | spans
  deriving Repr, DecidableEq

/-- A directive about the parts whose names start with `target`. -/
structure LogDirective where
  target : Option String
  scope : LogScope
  level : LogLevel
  deriving Repr, DecidableEq

/-- Why a text is no directive. -/
inductive DirectiveFault where
  | malformed
  /-- One of the places at which the text is to be cut lies inside of a character. -/
  | insideCharacter
  deriving Repr, DecidableEq

namespace LogDirective

/-- The part of the whole text between two places. -/
def cut (text : List Char) (first last : Nat) : Except DirectiveFault (List Char) :=
  match Text.slice? first last text with
  | some part => .ok part
  | none => .error .insideCharacter

/-- The level from a place on. Nothing stands for the most detailed one. -/
def levelAt (text : List Char) (place : Nat) : Except DirectiveFault LogLevel :=
  match Text.dropBytes? place text with
  | none => .error .insideCharacter
  | some [] => .ok .trace
  | some cs =>
    match LogLevel.parse? (String.ofList cs) with
    | some level => .ok level
    | none => .error .malformed

/-- The level behind the brackets of a span; `rest` is what follows them at the given place. -/
def levelBehindSpan (text : List Char) (place : Nat) (rest : List Char) : Except DirectiveFault LogLevel :=
  match rest with
  | [] => .ok .trace
  | '=' :: _ => levelAt text (place + 1)
  | _ => .error .malformed

/-- The text of the value of a field is a number or a pattern. -/
def isFieldValue (cs : List Char) : Bool := (Decimal.read? (String.ofList cs)).isSome || Pattern.isPattern cs

/-- The scope of a span with the given name and field. A field may have a value between equals signs. -/
def spanScope (name field : List Char) : Except DirectiveFault LogScope :=
  let (fieldName, rest) := field.span (· != '=')
  let value := (rest.drop 1).takeWhile (· != '=')
  if field.isEmpty || !isFieldValue value then .error .malformed
  else .ok (if name.isEmpty && rest.isEmpty then .withField (String.ofList fieldName) else .spans)

/-- Reads a directive from the opening bracket of its span on; `rest` is what follows it at the given place. -/
def parseSpan (text : List Char) (target : Option String) (place : Nat) (rest : List Char) :
    Except DirectiveFault LogDirective :=
  let (name, rest) := rest.span fun c => c != ']' && c != '\x7b'
  let nameEnd := place + Text.byteSize name
  match rest with
  | ']' :: rest => do
    let _ ← cut text place nameEnd
    return ⟨target, .spans, ← levelBehindSpan text (nameEnd + 1) rest⟩
  | '\x7b' :: rest => do
    let name ← cut text place nameEnd
    let (field, rest) := rest.span (· != '\x7d')
    let fieldEnd := nameEnd + 1 + Text.byteSize field
    match rest with
    | '\x7d' :: rest =>
      let scope ← spanScope name (← cut text (nameEnd + 1) fieldEnd)
      match rest with
      | ']' :: rest => return ⟨target, scope, ← levelBehindSpan text (fieldEnd + 2) rest⟩
      | _ => .error .malformed
    | _ => .error .malformed
  | _ => .error .malformed

/-- A character that a directive may start with, unless it starts with a span. -/
def isStart (c : Char) : Bool := c == '-' || c == ':' || c == '_' || Text.isAlphanumeric c

/-- Reads a directive. A level alone is one, and so is a target alone. -/
def parse (s : String) : Except DirectiveFault LogDirective :=
  let text := s.toList
  match Text.trimChars text with
  | [] => .error .malformed
  | '[' :: rest => parseSpan text none 1 rest
  | c :: cs =>
    if !isStart c then .error .malformed
    else
      let (target, rest) := (c :: cs).span fun c => c != '=' && c != '['
      let targetEnd := Text.byteSize target
      match rest with
      | [] =>
        match LogLevel.parse? s with
        | some level => .ok ⟨none, .everything, level⟩
        | none => .ok ⟨some s, .everything, .trace⟩
      | c :: rest => do
        let target := some (String.ofList (← cut text 0 targetEnd))
        if c == '=' then return ⟨target, .everything, ← levelAt text (targetEnd + 1)⟩
        else parseSpan text target (targetEnd + 1) rest

/-- How closely a directive tells what it is about: by its target first, and then by a field. -/
def specificity (d : LogDirective) : Nat :=
  let field := match d.scope with
    | .withField _ => 1
    | _ => 0
  match d.target with
  | none => field
  | some t => 2 * (t.utf8ByteSize + 1) + field

/-- The directive is about what the part with the given name logs with the given fields. -/
def appliesTo (part : String) (fields : List String) (d : LogDirective) : Bool :=
  d.target.all (part.startsWith ·) && match d.scope with
    | .everything => true
    | .withField name => fields.contains name
    | .spans => false

end LogDirective

end SolidDrawing
