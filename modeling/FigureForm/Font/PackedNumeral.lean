/-
# Packed decimal numerals

A decimal numeral in half bytes: ten stand for digits, the others for a point, an exponent with or
without a minus sign, a minus sign, and the end.  Its value is the double nearest to the number that
is written.

A part of the parser that stands in the place of an outside library (see `Font.Tables`).
-/

namespace FigureForm.PackedNumeral

/-- The half byte behind a numeral. -/
def terminator : Nat := 15

/-- Whether a numeral ends in this byte. -/
def isLast (byte : UInt8) : Bool :=
  byte.toNat / 16 == terminator || byte.toNat % 16 == terminator

/-- The half bytes of a numeral up to its end; nothing for one that does not end. -/
def halves? : List UInt8 → Option (List Nat)
  | [] => none
  | byte :: bytes =>
    if byte.toNat / 16 = terminator then some []
    else if byte.toNat % 16 = terminator then some [byte.toNat / 16]
    else (halves? bytes).map fun halves => byte.toNat / 16 :: byte.toNat % 16 :: halves

/-- The characters for which a half byte stands. -/
def characters? (half : Nat) : Option (List Char) :=
  if half < 10 then some [Char.ofNat ('0'.toNat + half)]
  else if half = 10 then some ['.']
  else if half = 11 then some ['E']
  else if half = 12 then some ['E', '-']
  else if half = 14 then some ['-']
  else none

/-- A numeral has at most as many characters. -/
def longest : Nat := 64

/-- The number that digits stand for. -/
def ofDigits (digits : List Char) : Nat :=
  digits.foldl (fun total digit => total * 10 + (digit.toNat - '0'.toNat)) 0

/-- A text without the sign in front, and whether there was one. -/
def splitSign : List Char → Bool × List Char
  | '-' :: rest => (true, rest)
  | text => (false, text)

/-- The digits behind a point in front, and what follows them. -/
def splitFraction (text : List Char) : List Char × List Char :=
  if text.head? = some '.' then text.tail.span Char.isDigit else ([], text)

/-- The power of ten that an exponent stands for; nothing when it is malformed. -/
def exponent? : List Char → Option Int
  | [] => some 0
  | 'E' :: rest =>
    let (negative, digits) := splitSign rest
    if digits.isEmpty || !digits.all Char.isDigit then none
    else some (if negative then -(ofDigits digits : Int) else ofDigits digits)
  | _ => none

/-- Beyond this power of ten a numeral of so few digits is zero, or larger than all doubles. -/
def largestPower : Int := 1000

/-- The double nearest to a numeral. -/
def ofCharacters? (text : List Char) : Option Float := do
  let (negative, text) := splitSign text
  let (whole, rest) := text.span Char.isDigit
  let (fraction, rest) := splitFraction rest
  if whole.isEmpty && fraction.isEmpty then none
  let power := (← exponent? rest) - fraction.length
  let power := max (-largestPower) (min largestPower power)
  let size := Float.ofScientific (ofDigits (whole ++ fraction)) (power < 0) power.natAbs
  return if negative then -size else size

/-- The double of a packed numeral. -/
def read? (bytes : List UInt8) : Option Float := do
  let characters := (← (← halves? bytes).mapM characters?).flatten
  if longest < characters.length then none else ofCharacters? characters

/-- The bytes of a numeral. -/
def length (bytes : List UInt8) : Nat :=
  (bytes.takeWhile fun byte => !isLast byte).length + 1

end FigureForm.PackedNumeral
