/-!
# Shortest decimals

A finite binary number is `mantissa * 2 ^ exponent`. The reals that round to it form an interval, and among the
decimals in that interval one with the fewest digits, the nearest of those, stands for the number in texts.

* `Binary.lowEnd`, `Binary.highEnd` are the ends of the interval in quarters of the last binary place; they belong to
  it when the mantissa is even;
* `Binary.shortest` walks the decimal grids from coarse to fine. On each it looks at the two neighbours of the number
  only: if any point of the grid lies in the interval, one of these does.
-/

namespace SolidDrawing.Decimal

/-- A binary floating-point format: how many bits hold the fraction and the exponent. -/
structure Format where
  fractionBits : Nat
  exponentBits : Nat

/-- Doubles. -/
def Format.double : Format := ⟨52, 11⟩

/-- Singles. -/
def Format.single : Format := ⟨23, 8⟩

/-- A positive binary number `mantissa * 2 ^ exponent`. In `narrow` the next number below is at half the distance of
the next one above. -/
structure Binary where
  mantissa : Nat
  exponent : Int
  narrow : Bool
  deriving Repr, DecidableEq

/-- What a bit pattern stands for, the sign apart. -/
inductive Magnitude where
  | undefined
  | infinite
  | zero
  | positive (b : Binary)
  deriving Repr, DecidableEq

namespace Format

/-- The bit pattern is negative. -/
def isNegative (f : Format) (bits : Nat) : Bool := bits >>> (f.fractionBits + f.exponentBits) % 2 == 1

/-- The magnitude of a bit pattern. -/
def magnitude (f : Format) (bits : Nat) : Magnitude :=
  let fraction := bits % Nat.pow 2 f.fractionBits
  let exponent := bits >>> f.fractionBits % Nat.pow 2 f.exponentBits
  let bias : Int := Nat.pow 2 (f.exponentBits - 1) - 1 + f.fractionBits
  if exponent = Nat.pow 2 f.exponentBits - 1 then if fraction = 0 then .infinite else .undefined
  else if exponent = 0 then if fraction = 0 then .zero else .positive ⟨fraction, 1 - bias, false⟩
  else .positive ⟨Nat.pow 2 f.fractionBits + fraction, exponent - bias, fraction = 0 && 1 < exponent⟩

end Format

/-- The decimal `digits * 10 ^ exponent`. -/
structure Digits where
  digits : Nat
  exponent : Int
  deriving Repr, DecidableEq

/-- Which of two equally near decimals is taken. -/
inductive Tie where
  /-- The larger one. -/
  | up
  /-- The one whose last digit is even. -/
  | even
  deriving Repr, DecidableEq

namespace Binary

/-- The lower end of the interval, in quarters of the last binary place. -/
def lowEnd (b : Binary) : Nat := 4 * b.mantissa - if b.narrow then 1 else 2

/-- The upper end of the interval, in quarters of the last binary place. -/
def highEnd (b : Binary) : Nat := 4 * b.mantissa + 2

/-- A quarter of the last binary place is `quarterNum / quarterDen`. -/
def quarterNum (b : Binary) : Nat := Nat.pow 2 (b.exponent - 2).toNat

@[inherit_doc quarterNum]
def quarterDen (b : Binary) : Nat := Nat.pow 2 (2 - b.exponent).toNat

/-- The digits of the grid point just below, at spacing `10 ^ p`. -/
def below (b : Binary) (p : Int) : Nat :=
  4 * b.mantissa * b.quarterNum * Nat.pow 10 (-p).toNat / (b.quarterDen * Nat.pow 10 p.toNat)

/-- The decimal `c * 10 ^ p` rounds to the number. -/
def admits (b : Binary) (p : Int) (c : Nat) : Bool :=
  let x := c * Nat.pow 10 p.toNat * b.quarterDen
  let low := b.lowEnd * b.quarterNum * Nat.pow 10 (-p).toNat
  let high := b.highEnd * b.quarterNum * Nat.pow 10 (-p).toNat
  if b.mantissa % 2 = 0 then low ≤ x && x ≤ high else low < x && x < high

/-- The nearer of the two grid points around the number: `c` or `c + 1`. -/
def nearer (b : Binary) (tie : Tie) (p : Int) (c : Nat) : Nat :=
  let twice := 8 * b.mantissa * b.quarterNum * Nat.pow 10 (-p).toNat
  let middle := (2 * c + 1) * Nat.pow 10 p.toNat * b.quarterDen
  if twice < middle then c
  else if middle < twice then c + 1
  else match tie with
    | .up => c + 1
    | .even => if c % 2 = 0 then c else c + 1

/-- The point of the grid at spacing `10 ^ p` that stands for the number, if the grid has one. -/
def onGrid? (b : Binary) (tie : Tie) (p : Int) : Option Nat :=
  let c := b.below p
  match b.admits p c, b.admits p (c + 1) with
  | true, true => some (b.nearer tie p c)
  | true, false => some c
  | false, true => some (c + 1)
  | false, false => none

/-- The number of decimal digits of `n`, at least one. -/
def decimalLength (n : Nat) : Nat := (Nat.toDigits 10 n).length

/-- A power of ten that is not less than the number, by its exponent. -/
def coarsest (b : Binary) : Int :=
  let num := b.mantissa * Nat.pow 2 b.exponent.toNat
  let den := Nat.pow 2 (-b.exponent).toNat
  if den ≤ num then decimalLength (num / den) else 2 - (decimalLength (den / num) : Int)

/-- The first grid, from spacing `10 ^ p` down over `fuel` finer ones, that has a point for the number. -/
def search (b : Binary) (tie : Tie) : Nat → Int → Digits
  | 0, p => ⟨b.below p, p⟩
  | fuel + 1, p =>
    match b.onGrid? tie p with
    | some c => ⟨c, p⟩
    | none => search b tie fuel (p - 1)

/-- The shortest decimal that rounds to the number. Seventeen digits always suffice, and the coarsest grid is at most
two places above the first digit. -/
def shortest (b : Binary) (tie : Tie) : Digits := b.search tie 20 b.coarsest

end Binary

/-- Zeros at the end of the digits are moved into the exponent, at most `fuel` of them. -/
def Digits.stripped : Nat → Digits → Digits
  | 0, d => d
  | fuel + 1, d => if d.digits ≠ 0 ∧ d.digits % 10 = 0 then stripped fuel ⟨d.digits / 10, d.exponent + 1⟩ else d

end SolidDrawing.Decimal
