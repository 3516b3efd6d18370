/-
# Rounding doubles to whole numbers

A finite double is a whole number of equal binary parts, its `BinaryFraction`.  Every rounding rule
of this library is a rule on that fraction: the ceiling for pixel positions, and the nearest whole
number, halves away from zero, for color channels and font metrics.  `ceiling_le_iff` says in whole
numbers alone what the ceiling is; nothing here depends on floating-point arithmetic.
-/

import FigureForm.Coordinate

namespace FigureForm

/-- The number `numerator / 1 <<< places`. -/
structure BinaryFraction where
  numerator : Int
  places : Nat
  deriving DecidableEq, Repr

namespace BinaryFraction

/-- How many of the parts make one. -/
def parts (value : BinaryFraction) : Nat :=
  1 <<< value.places

/-- The least whole number that is not below the fraction. -/
def ceiling (value : BinaryFraction) : Int :=
  -(-value.numerator / value.parts)

/-- The whole number nearest to the size of the fraction; a half goes up. -/
def nearestSize (value : BinaryFraction) : Nat :=
  (2 * value.numerator.natAbs + value.parts) / (2 * value.parts)

theorem parts_pos (value : BinaryFraction) : 0 < value.parts := by
  unfold parts
  rw [Nat.one_shiftLeft]
  exact Nat.two_pow_pos _

/-- The ceiling is below exactly the whole numbers that the fraction is below. -/
theorem ceiling_le_iff (value : BinaryFraction) (bound : Int) :
    value.ceiling ≤ bound ↔ value.numerator ≤ bound * value.parts := by
  have key := Int.le_ediv_iff_mul_le (a := -bound) (b := -value.numerator)
    (Int.natCast_pos.2 value.parts_pos)
  rw [Int.neg_mul] at key
  unfold ceiling
  omega

end BinaryFraction

namespace Rounding

/-- The fraction that a double stands for; the infinities and NaN stand for none. -/
def exactValue (x : Float) : Option BinaryFraction :=
  match x.toModel.unpack with
  | .notANumber => none
  | .infinity _ => none
  | .zero _ => some ⟨0, 0⟩
  | .finite sign mantissa exponent _ =>
    let size := mantissa <<< exponent.toNat
    let numerator : Int :=
      match sign with
      | .positive => size
      | .negative => -size
    some ⟨numerator, (-exponent).toNat⟩

/-- The sign bit, which zeros have as well. -/
def signBit (x : Float) : Bool :=
  x.toBits >>> 63 == 1

/-- The least coordinate that is not below a double.  Values beyond the range go to its ends, and
NaN goes to zero. -/
def ceil (x : Float) : Coordinate :=
  match exactValue x with
  | some value => Coordinate.saturate value.ceiling
  | none => if x.isNaN then 0 else if signBit x then Int32.minValue else Int32.maxValue

/-- The whole number nearest to a double, halves away from zero, as a double of the same sign.
Infinities and NaN stay as they are. -/
def nearest (x : Float) : Float :=
  match exactValue x with
  | none => x
  | some value =>
    let size := Float.ofNat value.nearestSize
    if signBit x then -size else size

/-- The byte nearest to a double, halves upward.  Values beyond the range go to its ends, and NaN
goes to zero. -/
def nearestByte (x : Float) : UInt8 :=
  match exactValue x with
  | some value => if value.numerator < 0 then 0 else UInt8.ofNat (min value.nearestSize 255)
  | none => if x.isNaN || signBit x then 0 else 255

example : ceil 1.25 = 2 ∧ ceil (-1.75) = -1 ∧ ceil (-0.5) = 0 ∧ ceil 1e20 = 2147483647 := by
  decide
example : nearestByte 127.5 = 128 ∧ nearestByte 300.0 = 255 ∧ nearestByte (-3.0) = 0 := by
  decide

end Rounding

end FigureForm
