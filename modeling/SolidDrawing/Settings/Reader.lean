import SolidDrawing.Settings
import SolidDrawing.Settings.Token

/-!
# Reading settings files

`Settings.parse?` reads a settings file. Settings that are left out have their defaults, and names that are not
settings are skipped together with their values, whatever these are. Values nest at most `maxNesting` deep, counting
brackets and the places in them.
-/

namespace SolidDrawing.Settings

namespace Reader

/-- How deep values may nest. -/
def maxNesting : Nat := 128

/-- Skips a whole number that fits 64 bits; behind a sign one bit less is left for its digits. -/
def skipWhole : Reader Unit := do
  if ← drop? "+" then let _ ← wholeBelow 0x8000000000000000
  else if ← drop? "-" then let _ ← wholeBelow 0x8000000000000001
  else let _ ← wholeBelow 0x10000000000000000

/-- Skips a decimal. -/
def skipDecimal : Reader Unit := do let _ ← decimal

/-- Skips a number. It is a decimal if the characters of a decimal reach further than those of a whole number, and also
if it cannot be read as a whole number. -/
def skipNumber : Reader Unit := fun cs =>
  let body := match cs with
    | '+' :: cs => cs
    | '-' :: cs => cs
    | cs => cs
  if (body.takeWhile isWholeChar).length < (body.takeWhile isDecimalChar).length then skipDecimal cs
  else (skipWhole <|> skipDecimal) cs

/-- Whether a bracket that was just opened holds named fields. -/
def holdsFields : Reader Bool := fun cs =>
  match (space cs).bind fun r => name r.2 with
  | none => some (false, cs)
  | some (_, rest) => (space rest).bind fun r => (r.2.head?).map fun c => (c == ':', cs)

mutual

/-- Skips a value of any kind. With `implicit`, a value that may be absent need not be in brackets. The next argument
bounds the number of steps, the last one the nesting. -/
def skipValue (implicit : Bool) : Nat → Nat → Reader Unit
  | 0, _ => failure
  | fuel + 1, depth => do
    if (← oneOfNames? ["true", "false"]).isSome then return
    if ← dropName? "None" then return
    if ← dropName? "Some" then
      space
      if ← drop? "(" then
        space
        inside depth fun depth => skipValue implicit fuel depth
        let _ ← comma
        drop ")"
        return
      if implicit then inside depth fun depth => skipValue implicit fuel depth
      else failure
      return
    if ← drop? "()" then return
    if (← oneOfNames? ["inf", "-inf", "NaN"]).isSome then return
    if ← named then
      space
      if (← peek) == some '(' then skipBracket implicit fuel depth
      return
    match ← peek with
    | some '(' => skipBracket implicit fuel depth
    | some '[' => do
      drop "["
      inside depth fun depth => skipItems implicit fuel depth "]"
    | some '\x7b' => do
      drop "\x7b"
      inside depth fun depth => skipEntries implicit fuel depth
    | some '"' => let _ ← text
    | some 'r' => let _ ← text
    | some '\'' => let _ ← character
    | some '.' => skipDecimal
    | some c => if c.isDigit || c == '+' || c == '-' then skipNumber else failure
    | none => failure
where
  /-- Goes one place further in. -/
  inside (depth : Nat) (read : Nat → Reader Unit) : Reader Unit :=
    match depth with
    | 0 => failure
    | depth + 1 => read depth
  /-- A name, if there is one. -/
  named : Reader Bool := fun cs =>
    match name cs with
    | some (_, rest) => some (true, rest)
    | none => some (false, cs)

/-- Skips a round bracket with items or with named fields. -/
def skipBracket (implicit : Bool) : Nat → Nat → Reader Unit
  | fuel + 1, depth + 1 => do
    drop "("
    if ← holdsFields then skipFields implicit fuel depth else skipItems implicit fuel depth ")"
  | _, _ => failure

/-- Skips items with commas between them, and the closing bracket. -/
def skipItems (implicit : Bool) : Nat → Nat → String → Reader Unit
  | 0, _, _ => failure
  | fuel + 1, depth, closing => do
    space
    if ← drop? closing then return
    match depth with
    | 0 => failure
    | depth' + 1 =>
      skipValue implicit fuel depth'
      if ← comma then skipItems implicit fuel depth closing else drop closing

/-- Skips named fields with commas between them, and the closing round bracket. -/
def skipFields (implicit : Bool) : Nat → Nat → Reader Unit
  | 0, _ => failure
  | fuel + 1, depth => do
    space
    if ← drop? ")" then return
    match depth with
    | 0 => failure
    | depth' + 1 =>
      let _ ← name
      colon
      skipValue implicit fuel depth'
      if ← comma then skipFields implicit fuel depth else drop ")"

/-- Skips entries with commas between them, keys of any kind with their values, and the closing brace. -/
def skipEntries (implicit : Bool) : Nat → Nat → Reader Unit
  | 0, _ => failure
  | fuel + 1, depth => do
    space
    if ← drop? "\x7d" then return
    match depth with
    | 0 => failure
    | depth' + 1 =>
      skipValue implicit fuel depth'
      colon
      skipValue implicit fuel depth'
      if ← comma then skipEntries implicit fuel depth else drop "\x7d"

end

/-- How the value of a field is read and put into a record. -/
abbrev FieldReaders (α : Type) := List (String × (α → Reader α))

/-- Reads the fields of a record and its closing bracket; `seen` holds the fields read before. -/
def fieldsFrom {α : Type} (implicit : Bool) (readers : FieldReaders α) (depth : Nat) :
    Nat → List String → α → Reader α
  | 0, _, _ => failure
  | fuel + 1, seen, a => do
    space
    if ← drop? ")" then return a
    let key ← name
    if seen.contains key then failure
    colon
    let (a, seen) ← match readers.lookup key with
      | some read => do pure (← read a, key :: seen)
      | none => do
        skipValue implicit (4 * (← get).length + 4) depth
        pure (a, seen)
    if ← comma then fieldsFrom implicit readers depth fuel seen a
    else
      drop ")"
      return a

/-- Reads a record, which its title and no other name may precede, over a record of defaults. -/
def record {α : Type} (implicit : Bool) (title : String) (depth : Nat) (defaults : α) (readers : FieldReaders α) :
    Reader α := do
  if (← peek).any isNameChar then
    if (← name) != title then failure
  space
  drop "("
  fieldsFrom implicit readers (depth - 2) ((← get).length + 1) [] defaults

/-- One of several names, each with what it stands for. -/
def choice {α : Type} (choices : List (String × α)) : Reader α := do
  StateT.lift (choices.lookup (← name))

/-- A value that may be absent. With `implicit`, one that is there need not be marked or in brackets. -/
def optionOf {α : Type} (implicit : Bool) (value : Reader α) : Reader (Option α) := do
  if ← dropName? "None" then return none
  if ← dropName? "Some" then
    space
    if ← drop? "(" then
      space
      let a ← value
      let _ ← comma
      drop ")"
      return some a
  if implicit then return some (← value) else failure

/-- The extensions that a file may turn on; only one of them matters here. -/
def extensions : List String := ["unwrap_newtypes", "implicit_some", "unwrap_variant_newtypes"]

/-- The names in a line that turns extensions on, up to the last of them. -/
def extensionNames : Nat → Reader (List String)
  | 0 => failure
  | fuel + 1 => do
    let extension ← name
    if !extensions.contains extension then failure
    if (← comma) && (← peek).any isNameChar then
      return extension :: (← extensionNames fuel)
    else return [extension]

/-- The lines at the front that turn extensions on, at most `fuel` of them. -/
def extensionLines : Nat → Reader (List String)
  | 0 => pure []
  | fuel + 1 => do
    space
    if (← peek) == some '#' then
      for word in ["#", "!", "[", "enable", "("] do
        drop word
        space
      let extensions ← extensionNames ((← get).length + 1)
      space
      for word in [")", "]"] do
        drop word
        space
      return extensions ++ (← extensionLines fuel)
    else return []

end Reader

open Reader

/-- A number that replaces one in the record. -/
def decimalField {α : Type} (put : α → Float → α) (a : α) : Reader α := do return put a (← decimal)

/-- The fields of the store's settings. -/
def storeReaders : FieldReaders (StoreConfig Float) :=
  [("samples_per_axis", fun c => do return { c with samples := ← wholeBelow 0x100000000 }),
    ("empty_volume", decimalField fun c x => { c with emptyVolume := x })]

/-- The fields of the sheet's settings. -/
def sheetReaders : FieldReaders (SheetConfig Float) :=
  [("width_mm", decimalField fun c x => { c with width := x }),
    ("height_mm", decimalField fun c x => { c with height := x }),
    ("margin_mm", decimalField fun c x => { c with margin := x }),
    ("title_block_mm", decimalField fun c x => { c with titleBlock := x }),
    ("columns", fun c => do return { c with columns := ← wholeBelow 0x10000000000000000 }),
    ("font_size_mm", decimalField fun c x => { c with fontSize := x })]

/-- The fields of the policy. -/
def policyReaders : FieldReaders Policy :=
  [("duplicate_views", fun c => do
      return { c with duplicateViews := ← choice [("LastWins", .lastWins), ("Reject", .reject)] }),
    ("missing_section_normal", fun c => do
      return { c with missingSectionNormal := ← choice [("Defer", .defer), ("Reject", .reject)] })]

/-- The fields of the settings. -/
def readers (implicit : Bool) : FieldReaders Settings :=
  [("kernel", fun s => do
      return { s with kernel := ← choice [("Csg", .csg), ("Truck", .truck), ("Null", .null)] }),
    ("renderer", fun s => do return { s with renderer := ← choice [("Sheet", .sheet), ("Null", .null)] }),
    ("csg", fun s => do
      return { s with store := ← record implicit "CsgConfig" (maxNesting - 2) StoreConfig.default storeReaders }),
    ("sheet", fun s => do
      return { s with sheet := ← record implicit "SheetConfig" (maxNesting - 2) SheetConfig.a4 sheetReaders }),
    ("projector", fun s => do
      return { s with policy := ← record implicit "ProjectorConfig" (maxNesting - 2) {} policyReaders }),
    ("log_filter", fun s => do return { s with logFilter := ← optionOf implicit text })]

/-- Reads settings that make up the rest of a text. -/
def reader : Reader Settings := do
  let extensions ← extensionLines ((← get).length + 1)
  let implicit := extensions.contains "implicit_some"
  let s ← record implicit "JobConfig" maxNesting {} (readers implicit)
  space
  if (← peek).isSome then failure
  return s

/-- Reads a settings file. -/
def parse? (s : String) : Option Settings := (reader s.toList).map (·.1)

end SolidDrawing.Settings
