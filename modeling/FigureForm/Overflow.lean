/-
# Overflows

Numbers of a fixed width are not wrapped around: an operation whose exact result does not fit is
reported by its name, and whatever needs the result has no answer.  This is the arithmetic of a
program that is built with checks for overflows; built without them, it would wrap around.
-/

namespace FigureForm

/-- The operation whose exact result does not fit.  An extent is the end of a list in a file whose
places are numbers of four bytes. -/
inductive Overflow
  | addition
  | subtraction
  | negation
  | multiplication
  | extent
  deriving DecidableEq, Repr

/-- What is said about an overflow. -/
def Overflow.message : Overflow → String
  | .addition => "attempt to add with overflow"
  | .subtraction => "attempt to subtract with overflow"
  | .negation => "attempt to negate with overflow"
  | .multiplication => "attempt to multiply with overflow"
  | .extent => "attempt to measure an extent with overflow"

end FigureForm
