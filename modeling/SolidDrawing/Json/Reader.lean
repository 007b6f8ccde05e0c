import SolidDrawing.Json.Number
import SolidDrawing.Text.Hex

/-!
# Reading JSON

`Json.parse?` reads a text that holds one value. Of a repeated key the last value counts, and the members of an object
come in the order of their keys. Lists and objects nest at most `maxNesting` deep.

Every reader takes the rest of the text and gives back what it leaves. The number of steps is bounded by the length of
the text, since a step reads at least one character.
-/

namespace SolidDrawing.Json

/-- How deep lists and objects may nest. -/
def maxNesting : Nat := 127

/-- A character that may stand between tokens. -/
def isSpace (c : Char) : Bool := c == ' ' || c == '\n' || c == '\t' || c == '\r'

/-- The text without the spaces at its front. -/
def skipSpaces (cs : List Char) : List Char := cs.dropWhile isSpace

/-- What follows `word` at the front of a text. -/
def dropWord? : List Char → List Char → Option (List Char)
  | [], cs => some cs
  | w :: word, c :: cs => if w == c then dropWord? word cs else none
  | _ :: _, [] => none

/-- The value of four hexadecimal digits. -/
def hexUnit? (a b c d : Char) : Option Nat := do
  return 4096 * (← Text.hexDigit? a) + 256 * (← Text.hexDigit? b) + 16 * (← Text.hexDigit? c) + (← Text.hexDigit? d)

/-- The character of a letter after a backslash. -/
def escapedChar? : Char → Option Char
  | '"' => some '"'
  | '\\' => some '\\'
  | '/' => some '/'
  | 'b' => some '\x08'
  | 'f' => some '\x0c'
  | 'n' => some '\n'
  | 'r' => some '\r'
  | 't' => some '\t'
  | _ => none

/-- Reads a quoted text behind its opening quote; `read` holds what is read so far, the last character first. Of the
units that stand for half a character, only a high one followed by a low one is allowed. -/
def textBody (read : List Char) : List Char → Option (String × List Char)
  | [] => none
  | '"' :: cs => some (String.ofList read.reverse, cs)
  | '\\' :: 'u' :: a :: b :: c :: d :: cs =>
    match hexUnit? a b c d with
    | none => none
    | some unit =>
      if 0xDC00 ≤ unit ∧ unit < 0xE000 then none
      else if 0xD800 ≤ unit ∧ unit < 0xDC00 then
        match cs with
        | '\\' :: 'u' :: a' :: b' :: c' :: d' :: cs =>
          match hexUnit? a' b' c' d' with
          | none => none
          | some low =>
            if 0xDC00 ≤ low ∧ low < 0xE000 then
              textBody (Char.ofNat (0x10000 + (unit - 0xD800) * 0x400 + (low - 0xDC00)) :: read) cs
            else none
        | _ => none
      else textBody (Char.ofNat unit :: read) cs
  | '\\' :: c :: cs =>
    match escapedChar? c with
    | some e => textBody (e :: read) cs
    | none => none
  | c :: cs => if c.toNat < 0x20 || c == '\\' then none else textBody (c :: read) cs

/-- Puts a member in its place among members in the order of their keys; an equal key gives way to it. -/
def insertMember (key : String) (v : Json) : List (String × Json) → List (String × Json)
  | [] => [(key, v)]
  | (k, w) :: rest =>
    if key < k then (key, v) :: (k, w) :: rest
    else if key == k then (key, v) :: rest
    else (k, w) :: insertMember key v rest

mutual

/-- Reads a value that nests at most `depth` deep. -/
def readValue : Nat → Nat → List Char → Option (Json × List Char)
  | 0, _, _ => none
  | fuel + 1, depth, cs =>
    match skipSpaces cs with
    | 'n' :: cs => (dropWord? ['u', 'l', 'l'] cs).map fun cs => (.null, cs)
    | 't' :: cs => (dropWord? ['r', 'u', 'e'] cs).map fun cs => (.bool true, cs)
    | 'f' :: cs => (dropWord? ['a', 'l', 's', 'e'] cs).map fun cs => (.bool false, cs)
    | '"' :: cs => (textBody [] cs).map fun r => (.text r.1, r.2)
    | '[' :: cs =>
      match depth with
      | 0 => none
      | depth + 1 =>
        match skipSpaces cs with
        | ']' :: cs => some (.list [], cs)
        | cs => (readItems fuel depth cs).map fun r => (.list r.1, r.2)
    | '\x7b' :: cs =>
      match depth with
      | 0 => none
      | depth + 1 =>
        match skipSpaces cs with
        | '\x7d' :: cs => some (.object [], cs)
        | cs => (readMembers fuel depth [] cs).map fun r => (.object r.1, r.2)
    | cs => number? cs

/-- Reads the items of a list up to its end, at least one. -/
def readItems : Nat → Nat → List Char → Option (List Json × List Char)
  | 0, _, _ => none
  | fuel + 1, depth, cs =>
    match readValue fuel depth cs with
    | none => none
    | some (v, cs) =>
      match skipSpaces cs with
      | ',' :: cs => (readItems fuel depth cs).map fun r => (v :: r.1, r.2)
      | ']' :: cs => some ([v], cs)
      | _ => none

/-- Reads the members of an object up to its end, at least one, and puts them among `read`. -/
def readMembers : Nat → Nat → List (String × Json) → List Char → Option (List (String × Json) × List Char)
  | 0, _, _, _ => none
  | fuel + 1, depth, read, cs =>
    match skipSpaces cs with
    | '"' :: cs =>
      match textBody [] cs with
      | none => none
      | some (key, cs) =>
        match skipSpaces cs with
        | ':' :: cs =>
          match readValue fuel depth cs with
          | none => none
          | some (v, cs) =>
            match skipSpaces cs with
            | ',' :: cs => readMembers fuel depth (insertMember key v read) cs
            | '\x7d' :: cs => some (insertMember key v read, cs)
            | _ => none
        | _ => none
    | _ => none

end

/-- Reads a text that holds one value nesting at most `depth` deep. -/
def parseNested? (depth : Nat) (s : String) : Option Json :=
  let cs := s.toList
  match readValue (2 * cs.length + 2) depth cs with
  | some (v, rest) => if (skipSpaces rest).isEmpty then some v else none
  | none => none

/-- Reads a text that holds one value. -/
def parse? (s : String) : Option Json := parseNested? maxNesting s

end SolidDrawing.Json
