import SolidDrawing.Json
import SolidDrawing.Decimal.Reader

/-!
# Numbers of JSON texts

`Json.number?` reads a number at the front of a text. A number without fraction and exponent is whole if it fits 64
bits. Any other one is taken as a significand of at most 64 bits times a power of ten, with one rounding for the
significand and one for each multiplication or division, so that it need not be the double nearest to its digits.

The digits go into the significand one by one (`gather`), which never outgrows `significandLimit` (`gather_le`). Whole
digits that find no room still count as powers of ten; digits of the fraction without room are dropped.
-/

namespace SolidDrawing.Json

/-- The largest significand. -/
def significandLimit : Nat := 0xFFFFFFFFFFFFFFFF

/-- Puts digits behind those of a significand as long as there is room: the significand, and the digits without room. -/
def gather (n : Nat) : List Char → Nat × List Char
  | [] => (n, [])
  | c :: cs =>
    let next := 10 * n + (c.toNat - '0'.toNat)
    if next ≤ significandLimit then gather next cs else (n, c :: cs)

theorem gather_le {n : Nat} (h : n ≤ significandLimit) (cs : List Char) : (gather n cs).1 ≤ significandLimit := by
  induction cs generalizing n with
  | nil => exact h
  | cons c cs ih =>
    unfold gather
    dsimp only
    split
    · next hroom => exact ih hroom
    · exact h

/-- The largest exponent of a power of ten that is a double. -/
def powerLimit : Nat := 308

/-- A double times a power of ten, if it stays finite. Below the powers that are doubles it is divided several times. -/
def scaled? (x : Float) (exponent : Int) : Option Float :=
  if exponent.natAbs ≤ powerLimit then
    let power := Decimal.nearest 1 exponent.natAbs
    let y := if 0 ≤ exponent then x * power else x / power
    if y.isFinite then some y else none
  else if x == 0 then some x
  else if 0 < exponent then none
  else scaled? (x / Decimal.nearest 1 powerLimit) (exponent + powerLimit)
termination_by exponent.natAbs
decreasing_by simp only [powerLimit] at *; omega

/-- A number by its parts. The fraction is empty if there is no point. -/
structure Numeral where
  negative : Bool
  whole : List Char
  fraction : List Char
  exponent : Option Int
  deriving Repr, DecidableEq

/-- The value of a whole number with a significand: it stays whole if it fits 64 bits, with or without a sign. -/
def wholeValue (negative : Bool) (n : Nat) : Json :=
  if !negative then .whole n
  else if 0 < n ∧ n ≤ 0x8000000000000000 then .whole (-(n : Int))
  else .real (Decimal.signed true (Decimal.nearest n 0))

/-- The value of a number, unless it is too large for a double. -/
def Numeral.value? (n : Numeral) : Option Json :=
  let (significand, left) := gather 0 n.whole
  if n.fraction.isEmpty && n.exponent.isNone && left.isEmpty then some (wholeValue n.negative significand)
  else
    let (significand, dropped) := gather significand n.fraction
    let exponent : Int := n.exponent.getD 0 + left.length + dropped.length - n.fraction.length
    (scaled? (Decimal.nearest significand 0) exponent).map fun x => .real (Decimal.signed n.negative x)

/-- A fraction at the front of a text: its digits, and what follows. -/
def fraction? : List Char → Option (List Char × List Char)
  | '.' :: cs =>
    let (ds, rest) := Decimal.spanDigits cs
    if ds.isEmpty then none else some (ds, rest)
  | cs => some ([], cs)

/-- An exponent at the front of a text, and what follows. -/
def exponent? : List Char → Option (Option Int × List Char)
  | [] => some (none, [])
  | e :: cs =>
    if e == 'e' || e == 'E' then
      let (negative, cs) := Decimal.spanSign cs
      let (ds, rest) := Decimal.spanDigits cs
      let n := Decimal.digitsValue ds
      if ds.isEmpty then none else some (some (if negative then -(n : Int) else n), rest)
    else some (none, e :: cs)

/-- Reads the parts of a number behind its sign. The whole part has no zero in front of other digits. -/
def numeral? (negative : Bool) (cs : List Char) : Option (Numeral × List Char) := do
  let (digits, cs) := Decimal.spanDigits cs
  if digits.isEmpty || (digits.length > 1 && digits.head? == some '0') then none
  else
    let (fraction, cs) ← fraction? cs
    let (exponent, cs) ← exponent? cs
    return (⟨negative, digits, fraction, exponent⟩, cs)

/-- Reads a number. -/
def number? (cs : List Char) : Option (Json × List Char) := do
  let (numeral, cs) ← match cs with
    | '-' :: cs => numeral? true cs
    | cs => numeral? false cs
  return (← numeral.value?, cs)

end SolidDrawing.Json
