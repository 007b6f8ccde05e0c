/-!
# Reading decimals

A decimal is read as the double nearest to it. `read?` takes digits with an optional sign, point and exponent, and the
names of the values that are not finite.
-/

namespace SolidDrawing.Decimal

/-- The double nearest to `digits * 10 ^ exponent`. Exponents far outside the range of doubles are cut short. -/
def nearest (digits : Nat) (exponent : Int) : Float :=
  if digits = 0 then 0
  else if 400 < exponent then 1.0 / 0.0
  else if exponent + (Nat.toDigits 10 digits).length < -400 then 0
  else Float.ofScientific digits (exponent < 0) exponent.natAbs

/-- The double with the sign turned when `negative` holds. -/
def signed (negative : Bool) (x : Float) : Float := if negative then -x else x

/-- The digits at the front of a text, and what follows them. -/
def spanDigits (cs : List Char) : List Char × List Char := cs.span Char.isDigit

/-- The number that decimal digits stand for. -/
def digitsValue (cs : List Char) : Nat := cs.foldl (fun n c => 10 * n + (c.toNat - '0'.toNat)) 0

/-- A sign at the front of a text: whether it is a minus, and what follows. -/
def spanSign : List Char → Bool × List Char
  | '-' :: cs => (true, cs)
  | '+' :: cs => (false, cs)
  | cs => (false, cs)

/-- An exponent that makes up the whole text: nothing, or a letter `e`, a sign and digits. -/
def exponent? : List Char → Option Int
  | [] => some 0
  | e :: cs =>
    if e == 'e' || e == 'E' then
      let (negative, ds) := spanSign cs
      if ds.isEmpty || !ds.all Char.isDigit then none
      else some (if negative then -(digitsValue ds : Int) else digitsValue ds)
    else none

/-- A number without its sign: at least one digit, with a point anywhere among the digits, and an exponent. -/
def unsigned? (cs : List Char) : Option Float :=
  let (whole, rest) := spanDigits cs
  let (fraction, rest) := match rest with
    | '.' :: rest => spanDigits rest
    | rest => ([], rest)
  if whole.isEmpty && fraction.isEmpty then none
  else (exponent? rest).map fun e => nearest (digitsValue (whole ++ fraction)) (e - fraction.length)

/-- Reads a number. -/
def read? (s : String) : Option Float :=
  let (negative, cs) := spanSign s.toList
  let name := String.ofList (cs.map Char.toLower)
  (if name == "inf" || name == "infinity" then some (1.0 / 0.0)
    else if name == "nan" then some (Float.ofBits 0x7ff8000000000000)
    else unsigned? cs).map (signed negative)

end SolidDrawing.Decimal
