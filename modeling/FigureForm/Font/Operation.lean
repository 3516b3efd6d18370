/-
# Operations

The settings of compact outlines are lists of operators, each behind its operands.  An operator is a
byte, or two bytes after the byte 12.  An operand is a whole number of one, two, three or five
bytes, or a packed decimal numeral.

A part of the parser that stands in the place of an outside library (see `Font.Tables`).
-/

import FigureForm.Bytes.BigEndian
import FigureForm.Font.PackedNumeral

namespace FigureForm

open BigEndian

/-- An operator and its operands, which are missing if one of them is malformed.  Operands beyond
the limit are not looked at. -/
structure Operation where
  operator : Nat
  operands : Option (List Float)

namespace Operation

/-- Whether a byte is an operator and does not begin an operand. -/
def isOperator (byte : Nat) : Bool :=
  byte < 28 || byte == 31 || byte == 255

/-- The byte in front of the second byte of an operator. -/
def twoByteMark : Nat := 12

/-- Operators of two bytes are numbered from here on. -/
def twoByteStart : Nat := 1200

/-- At most as many operands belong to an operator. -/
def operandLimit : Nat := 48

/-- The operands with one more behind them, up to the limit. -/
def addOperand (operands : Option (List Float)) (operand : Option Float) : Option (List Float) := do
  let operands ← operands
  if operandLimit ≤ operands.length then some operands else return operands ++ [← operand]

/-- The bytes of the operand at a place that begins with a byte. -/
def operandLength (data : ByteArray) (place first : Nat) : Nat :=
  if first = 28 then 3
  else if first = 29 then 5
  else if first = 30 then 1 + PackedNumeral.length (data.extract (place + 1) data.size).toList
  else if first < 247 then 1
  else 2

theorem operandLength_pos (data : ByteArray) (place first : Nat) :
    0 < operandLength data place first := by
  unfold operandLength
  grind

/-- The operand at a place that begins with a byte. -/
def operand? (data : ByteArray) (place first : Nat) : Option Float := do
  if first = 28 then return Float.ofInt (← signedWord? data (place + 1))
  if first = 29 then return Float.ofInt (← readSigned? data (place + 1) 4)
  if first = 30 then PackedNumeral.read? (data.extract (place + 1) data.size).toList
  else if first < 247 then return Float.ofInt (first - 139)
  else
    let second ← read? data (place + 1) 1
    if first < 251 then return Float.ofInt ((first - 247) * 256 + second + 108)
    else return Float.ofInt (-(first - 251) * 256 - second - 108)

/-- The operations from a place on, of which the first has operands in front of the place. -/
def listFrom (data : ByteArray) (place : Nat) (operands : Option (List Float)) : List Operation :=
  if place < data.size then
    let first := (read? data place 1).getD 0
    if isOperator first then
      if first = twoByteMark then
        match read? data (place + 1) 1 with
        | some second => ⟨twoByteStart + second, operands⟩ :: listFrom data (place + 2) (some [])
        | none => []
      else ⟨first, operands⟩ :: listFrom data (place + 1) (some [])
    else
      listFrom data (place + operandLength data place first)
        (addOperand operands (operand? data place first))
  else []
termination_by data.size - place
decreasing_by
  · omega
  · omega
  · have := operandLength_pos data place ((read? data place 1).getD 0)
    omega

/-- The operations in a block of bytes. -/
def listOf (data : ByteArray) : List Operation :=
  listFrom data 0 (some [])

/-- A double as a place; its fraction is dropped. -/
def place? (operand : Float) : Option Nat :=
  let number := operand.toInt32.toInt
  if number < 0 then none else some number.toNat

/-- The place that is the only operand. -/
def onlyPlace? (operation : Operation) : Option Nat := do
  match ← operation.operands with
  | [operand] => place? operand
  | _ => none

/-- The length and the place that are the only operands: where the bytes begin and end. -/
def onlyRange? (operation : Operation) : Option (Nat × Nat) := do
  match ← operation.operands with
  | [length, start] => return (← place? start, (← place? start) + (← place? length))
  | _ => none

/-- The last operation with an operator. -/
def last? (operations : List Operation) (operator : Nat) : Option Operation :=
  operations.reverse.find? fun operation => operation.operator == operator

end Operation

end FigureForm
