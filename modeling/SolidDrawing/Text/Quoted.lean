import SolidDrawing.Text.Hidden

/-!
# Quoted texts

A text between double quotes in which every character shows: line ends, tabs and quotes are escaped by a backslash,
and a character that does not show is given by its number.
-/

namespace SolidDrawing.Text

/-- An escape by number. -/
def numberEscape (c : Char) : List Char := ['\\', 'u', '\x7b'] ++ Nat.toDigits 16 c.toNat ++ ['\x7d']

/-- A character between double quotes; with `single`, single quotes are escaped too. -/
def quotedChar (single : Bool) (c : Char) : List Char :=
  match c with
  | '\x00' => ['\\', '0']
  | '\t' => ['\\', 't']
  | '\n' => ['\\', 'n']
  | '\r' => ['\\', 'r']
  | '"' => ['\\', '"']
  | '\\' => ['\\', '\\']
  | '\'' => if single then ['\\', '\''] else ['\'']
  | c => if isHidden c then numberEscape c else [c]

/-- A text between double quotes. -/
def quoted (single : Bool) (s : String) : String :=
  String.ofList ('"' :: s.toList.flatMap (quotedChar single) ++ ['"'])

end SolidDrawing.Text
