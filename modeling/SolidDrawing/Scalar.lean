/-!
# Scalars

The geometry is written once, over any number type with the operations of `Scalar`. Binary floating point is the
instance that runs; a field with square roots is the one in which the geometry is exact.

* `Scalar.orderLe` is a total order, also where `≤` is not: it decides how lists of coordinates are sorted;
* `Scalar.floor` counts whole units, and is `0` below zero and for what is not a number.
-/

namespace SolidDrawing

/-- A number type for coordinates and lengths. -/
class Scalar (K : Type) where
  [add : Add K]
  [sub : Sub K]
  [mul : Mul K]
  [div : Div K]
  [neg : Neg K]
  [le : LE K]
  [lt : LT K]
  /-- The number of a count. -/
  ofCount : Nat → K
  /-- `ofDecimal m s e` is `m * 10 ^ e`, or `m / 10 ^ e` when `s` holds. -/
  ofDecimal : Nat → Bool → Nat → K
  /-- `≤` is decidable. -/
  decLe : DecidableLE K
  /-- `<` is decidable. -/
  decLt : DecidableLT K
  /-- Equality of the values. -/
  same : K → K → Bool
  /-- Neither infinite nor undefined. -/
  isFinite : K → Bool
  /-- The smaller of two values; an undefined one gives way to the other. -/
  smaller : K → K → K
  /-- The larger of two values; an undefined one gives way to the other. -/
  larger : K → K → K
  /-- The distance from zero. -/
  magnitude : K → K
  /-- The square root. -/
  root : K → K
  /-- The number of whole units in a value. -/
  floor : K → Nat
  /-- A total order that agrees with `≤` on distinct finite values. -/
  orderLe : K → K → Bool

/-! The operations of a scalar give way to those that a number type has anyway. -/

section

variable {K : Type} [Scalar K]

instance (priority := low) Scalar.instAdd : Add K := Scalar.add

instance (priority := low) Scalar.instSub : Sub K := Scalar.sub

instance (priority := low) Scalar.instMul : Mul K := Scalar.mul

instance (priority := low) Scalar.instDiv : Div K := Scalar.div

instance (priority := low) Scalar.instNeg : Neg K := Scalar.neg

instance (priority := low) Scalar.instLE : LE K := Scalar.le

instance (priority := low) Scalar.instLT : LT K := Scalar.lt

instance (priority := low) Scalar.instDecidableLE : DecidableLE K := Scalar.decLe

instance (priority := low) Scalar.instDecidableLT : DecidableLT K := Scalar.decLt

end

/-- Whole literals, where the number type has none of its own. -/
instance (priority := 10) Scalar.instOfNat {K : Type} [Scalar K] (n : Nat) : OfNat K n := ⟨Scalar.ofCount n⟩

/-- Decimal literals, where the number type has none of its own. -/
instance (priority := 10) Scalar.instOfScientific {K : Type} [Scalar K] : OfScientific K := ⟨Scalar.ofDecimal⟩

namespace Scalar

/-- Finite and greater than zero. -/
@[inline] def isPositive {K : Type} [Scalar K] (x : K) : Bool := isFinite x && decide (0 < x)

end Scalar

/-- The sign-and-magnitude order key of a double: negative values below all others, in reverse. -/
@[inline] def floatOrderKey (x : Float) : UInt64 :=
  let b := x.toBits
  if b &&& 0x8000000000000000 == 0 then b ||| 0x8000000000000000 else ~~~ b

/-- Binary floating point of 64 bits. -/
instance : Scalar Float where
  ofCount := Float.ofNat
  ofDecimal := Float.ofScientific
  decLe := inferInstance
  decLt := inferInstance
  same a b := a == b
  isFinite := Float.isFinite
  smaller a b := if b < a || a.isNaN then b else a
  larger a b := if a < b || a.isNaN then b else a
  magnitude := Float.abs
  root := Float.sqrt
  floor x := x.toUInt64.toNat
  orderLe a b := floatOrderKey a ≤ floatOrderKey b

end SolidDrawing
