import SolidDrawing.Decimal.Reader
import SolidDrawing.Json.Reader

/-!
# Tokens of settings files

A settings file is a record in round brackets, with a name in front if one likes. This module reads what values are
made of: blanks and comments, names, numbers and quoted texts. Every reader takes the rest of the file and gives back
what it leaves.
-/

namespace SolidDrawing.Settings

/-- Reads from the front of a text, or fails. -/
abbrev Reader := StateT (List Char) Option

/-- Blanks between tokens. -/
def isBlank (c : Char) : Bool := c == ' ' || c == '\t' || c == '\n' || c == '\r'

/-- What follows a block comment; `depth` comments are open around it. -/
def afterBlock : Nat → List Char → Option (List Char)
  | _, [] => none
  | depth, '/' :: '*' :: cs => afterBlock (depth + 1) cs
  | 0, '*' :: '/' :: cs => some cs
  | depth + 1, '*' :: '/' :: cs => afterBlock depth cs
  | depth, _ :: cs => afterBlock depth cs

/-- What follows the blanks and comments at the front of a text of at most `fuel` characters. -/
def afterSpace : Nat → List Char → Option (List Char)
  | 0, cs => some cs
  | fuel + 1, cs =>
    match cs.dropWhile isBlank with
    | '/' :: '/' :: cs => afterSpace fuel (cs.dropWhile (· != '\n'))
    | '/' :: '*' :: cs => (afterBlock 0 cs).bind (afterSpace fuel)
    | '/' :: _ => none
    | cs => some cs

namespace Reader

/-- Skips blanks and comments. -/
def space : Reader Unit := fun cs => (afterSpace (cs.length + 1) cs).map ((), ·)

/-- The next character, which stays. -/
def peek : Reader (Option Char) := fun cs => some (cs.head?, cs)

/-- Whether the text starts with the given one, which is then dropped. -/
def drop? (word : String) : Reader Bool := fun cs =>
  match Json.dropWord? word.toList cs with
  | some rest => some (true, rest)
  | none => some (false, cs)

/-- Drops the given text from the front. -/
def drop (word : String) : Reader Unit := do
  if !(← drop? word) then failure

/-- The first of the characters that satisfy `p`. -/
def takeWhile (p : Char → Bool) : Reader (List Char) := fun cs => some (cs.span p)

/-- A comma with blanks around it, if there is one. -/
def comma : Reader Bool := do
  space
  if ← drop? "," then
    space
    return true
  else return false

/-- A colon with blanks around it. -/
def colon : Reader Unit := do
  space
  drop ":"
  space

/-- The first character of a name. -/
def isNameStart (c : Char) : Bool := c.isAlpha || c == '_'

/-- A character of a name. -/
def isNameChar (c : Char) : Bool := c.isAlphanum || c == '_'

/-- A character of a name that is marked by `r#`. -/
def isMarkedChar (c : Char) : Bool := isNameChar c || c == '.' || c == '+' || c == '-'

/-- A name. Unless it is marked, no point or sign may follow it. -/
def name : Reader String := fun cs =>
  match cs with
  | 'r' :: '#' :: rest =>
    let (ds, rest) := rest.span isMarkedChar
    if ds.isEmpty then none else some (String.ofList ds, rest)
  | 'r' :: '"' :: _ => none
  | c :: _ =>
    let (ds, rest) := cs.span isNameChar
    if isNameStart c && !(rest.head?.any isMarkedChar) then some (String.ofList ds, rest) else none
  | [] => none

/-- Whether the text starts with the given name, which is then dropped. -/
def dropName? (word : String) : Reader Bool := fun cs =>
  match Json.dropWord? word.toList cs with
  | some rest => if rest.head?.any isNameChar then some (false, cs) else some (true, rest)
  | none => some (false, cs)

/-- A character of a whole number in any base. -/
def isWholeChar (c : Char) : Bool := (Text.hexDigit? c).isSome || c == '_'

/-- A character of a decimal. -/
def isDecimalChar (c : Char) : Bool :=
  c.isDigit || c == 'e' || c == 'E' || c == '.' || c == '+' || c == '-' || c == '_'

/-- The value of digits in a base; underscores between them do not count. -/
def valueIn? (base : Nat) (ds : List Char) : Option Nat :=
  if ds.isEmpty || ds.head? == some '_' then none
  else
    (ds.filter (· != '_')).foldlM (fun n c => do
      let d ← Text.hexDigit? c
      if d < base then some (base * n + d) else none) 0

/-- A whole number without a sign; other bases than ten are marked by `0x`, `0o` and `0b`. -/
def whole : Reader Nat := fun cs =>
  let (base, cs) := match cs with
    | '0' :: 'x' :: cs => (16, cs)
    | '0' :: 'o' :: cs => (8, cs)
    | '0' :: 'b' :: cs => (2, cs)
    | cs => (10, cs)
  let (ds, rest) := cs.span isWholeChar
  (valueIn? base ds).map (·, rest)

/-- A whole number below a bound. -/
def wholeBelow (bound : Nat) : Reader Nat := do
  let n ← whole
  if n < bound then return n else failure

/-- The names of values that have no decimal. -/
def namedDecimals : List String := ["inf", "+inf", "-inf", "NaN", "+NaN", "-NaN"]

/-- One of the given names, if the text starts with it. -/
def oneOfNames? : List String → Reader (Option String)
  | [] => pure none
  | word :: rest => do
    if ← dropName? word then return some word else oneOfNames? rest

/-- A decimal. -/
def decimal : Reader Float := do
  match ← oneOfNames? namedDecimals with
  | some word => StateT.lift (Decimal.read? word)
  | none =>
    let cs ← takeWhile isDecimalChar
    StateT.lift (Decimal.read? (String.ofList cs))

/-- Hexadecimal digits up to a closing brace, at most `left` of them, behind digits with the value `n`. -/
def bracedDigits : Nat → Nat → List Char → Option (Nat × List Char)
  | _, n, '\x7d' :: cs => some (n, cs)
  | left + 1, n, c :: cs => (Text.hexDigit? c).bind fun d => bracedDigits left (16 * n + d) cs
  | _, _, _ => none

/-- The character that an escape stands for, read behind its backslash. -/
def escape : Reader Char := fun cs =>
  match cs with
  | '\'' :: cs => some ('\'', cs)
  | '"' :: cs => some ('"', cs)
  | '\\' :: cs => some ('\\', cs)
  | 'n' :: cs => some ('\n', cs)
  | 'r' :: cs => some ('\r', cs)
  | 't' :: cs => some ('\t', cs)
  | '0' :: cs => some ('\x00', cs)
  | 'x' :: a :: b :: cs => do
    let a ← Text.hexDigit? a
    let b ← Text.hexDigit? b
    return (Char.ofNat (16 * a + b), cs)
  | 'u' :: '\x7b' :: c :: cs => do
    let d ← Text.hexDigit? c
    let (n, cs) ← bracedDigits 5 d cs
    if n.isValidChar then return (Char.ofNat n, cs) else none
  | _ => none

/-- Reads a quoted text behind its opening quote, with at most `fuel` characters and escapes. -/
def quotedBody : Nat → Reader (List Char)
  | 0 => failure
  | fuel + 1 => fun cs =>
    match cs with
    | [] => none
    | '"' :: cs => some ([], cs)
    | '\\' :: cs =>
      (escape cs).bind fun r => (quotedBody fuel r.2).map fun s => (r.1 :: s.1, s.2)
    | c :: cs => (quotedBody fuel cs).map fun s => (c :: s.1, s.2)

/-- The characters up to the first place where `closing` stands. -/
def upTo (closing : List Char) : List Char → Option (List Char × List Char)
  | [] => none
  | c :: cs =>
    match Json.dropWord? closing (c :: cs) with
    | some rest => some ([], rest)
    | none => (upTo closing cs).map fun r => (c :: r.1, r.2)

/-- A text between quotes. Behind `r` and number signs there are no escapes, and it ends at a quote with as many number
signs. -/
def text : Reader String := fun cs =>
  match cs with
  | '"' :: cs => (quotedBody (cs.length + 1) cs).map fun r => (String.ofList r.1, r.2)
  | 'r' :: cs =>
    let (hashes, cs) := cs.span (· == '#')
    match cs with
    | '"' :: cs => (upTo ('"' :: hashes) cs).map fun r => (String.ofList r.1, r.2)
    | _ => none
  | _ => none

/-- A character between single quotes. -/
def character : Reader Char := fun cs =>
  match cs with
  | '\'' :: '\\' :: cs =>
    match escape cs with
    | some (c, '\'' :: cs) => some (c, cs)
    | _ => none
  | '\'' :: c :: '\'' :: cs => if c == '\'' then none else some (c, cs)
  | _ => none

end Reader

end SolidDrawing.Settings
