/-
# Doubles from decimal numerals

A numeral is a significand of at most 64 bits and a power of ten.  Its double is the double of the
significand, multiplied or divided once by the double of the power of ten.  Beyond 308 places the
division is made in two steps, and beyond the second step the result is zero.  The last bit may
differ from that of the closest double, so this is a rule of its own and not a rounding of the
exact quotient.
-/

namespace FigureForm.Decimal

/-- The largest significand that is kept; further digits are dropped. -/
def significandLimit : Nat := 0x10000000000000000

/-- The largest power of ten that a double holds. -/
def largestPower : Nat := 308

/-- The double of a power of ten. -/
def powerOfTen (exponent : Nat) : Float :=
  Float.ofScientific 1 false exponent

/-- The double of a significand times a power of ten; nothing when it is too large for a double. -/
def toDouble (significand : Nat) (exponent : Int) : Option Float :=
  let start := Float.ofNat significand
  if significand = 0 then some start
  else if 0 ≤ exponent then
    if exponent.toNat ≤ largestPower then
      let product := start * powerOfTen exponent.toNat
      if product.isInf then none else some product
    else none
  else
    let places := (-exponent).toNat
    if places ≤ largestPower then some (start / powerOfTen places)
    else if places ≤ 2 * largestPower then
      some (start / powerOfTen largestPower / powerOfTen (places - largestPower))
    else some 0.0

/-- Appends digits to a significand while it stays below the limit.  The result is the significand
and the number of digits that were taken. -/
def appendDigits (significand : Nat) : List Nat → Nat × Nat
  | [] => (significand, 0)
  | digit :: rest =>
    if significand * 10 + digit < significandLimit then
      let (total, taken) := appendDigits (significand * 10 + digit) rest
      (total, taken + 1)
    else (significand, 0)

/-- The significand and exponent of the digits before the point, the digits after it and the written
exponent.  Digits before the point that no longer fit raise the exponent, and digits after the point
that no longer fit are ignored. -/
def normalize (whole fraction : List Nat) (exponent : Int) : Nat × Int :=
  let (significand, taken) := appendDigits 0 whole
  let (total, fractionTaken) := appendDigits significand fraction
  (total, exponent + (whole.length - taken : Nat) - (fractionTaken : Nat))

end FigureForm.Decimal
