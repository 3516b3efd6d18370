/-
# Pixel coordinates

Coordinates are signed 32-bit words.  Adding or negating them is a partial operation here: a result
outside the range is not wrapped around but reported as an `Overflow`, so a caller sees which
operation had no answer.  `add_eq_ok_iff` and `negate_eq_ok_iff` say exactly when there is one.
-/

import FigureForm.Overflow

namespace FigureForm

/-- A pixel coordinate or extent. -/
abbrev Coordinate := Int32

namespace Coordinate

/-- The whole numbers that a coordinate can hold. -/
def InRange (value : Int) : Prop :=
  -2147483648 ≤ value ∧ value ≤ 2147483647

instance (value : Int) : Decidable (InRange value) :=
  inferInstanceAs (Decidable (_ ∧ _))

theorem inRange_toInt (a : Coordinate) : InRange a.toInt :=
  ⟨a.le_toInt, Int.le_of_lt_add_one a.toInt_lt⟩

theorem toInt_ofInt {value : Int} (h : InRange value) : (Int32.ofInt value).toInt = value :=
  Int32.toInt_ofInt_of_le h.1 (Int.lt_add_one_of_le h.2)

/-- The coordinate nearest to a whole number. -/
def saturate (value : Int) : Coordinate :=
  if value < -2147483648 then Int32.minValue
  else if 2147483647 < value then Int32.maxValue
  else Int32.ofInt value

/-- The sum, when it is a coordinate. -/
def add (a b : Coordinate) : Except Overflow Coordinate :=
  if InRange (a.toInt + b.toInt) then .ok (Int32.ofInt (a.toInt + b.toInt)) else .error .addition

/-- The opposite, when it is a coordinate. -/
def negate (a : Coordinate) : Except Overflow Coordinate :=
  if InRange (-a.toInt) then .ok (Int32.ofInt (-a.toInt)) else .error .negation

theorem add_eq_ok_iff {a b c : Coordinate} : add a b = .ok c ↔ a.toInt + b.toInt = c.toInt := by
  unfold add
  split
  next h =>
    rw [Except.ok.injEq, ← Int32.toInt_inj, toInt_ofInt h]
  next h =>
    constructor
    · intro impossible; cases impossible
    · intro sum; exact absurd (sum ▸ inRange_toInt c) h

theorem negate_eq_ok_iff {a c : Coordinate} : negate a = .ok c ↔ -a.toInt = c.toInt := by
  unfold negate
  split
  next h =>
    rw [Except.ok.injEq, ← Int32.toInt_inj, toInt_ofInt h]
  next h =>
    constructor
    · intro impossible; cases impossible
    · intro opposite; exact absurd (opposite ▸ inRange_toInt c) h

/-- Every coordinate but the least has an opposite. -/
theorem exists_negate_eq_ok {a : Coordinate} (h : a ≠ Int32.minValue) :
    ∃ c, negate a = .ok c := by
  have bounds := inRange_toInt a
  have notLeast : a.toInt ≠ -2147483648 := by
    exact fun same => h (Int32.toInt_inj.1 (same.trans Int32.toInt_minValue.symm))
  unfold InRange at bounds
  exact ⟨_, if_pos ⟨by omega, by omega⟩⟩

/-- Decimal text of a coordinate. -/
def text (a : Coordinate) : String :=
  toString a.toInt

end Coordinate

end FigureForm
