/-
# Characters in two-byte units

Characters beyond the basic plane are a pair of units, a high surrogate and a low one.
-/

namespace FigureForm.Surrogates

/-- The first halves of the pairs that stand for characters beyond the basic plane. -/
def isHigh (unit : Nat) : Bool :=
  0xD800 ≤ unit && unit ≤ 0xDBFF

/-- The second halves of those pairs. -/
def isLow (unit : Nat) : Bool :=
  0xDC00 ≤ unit && unit ≤ 0xDFFF

/-- The character of a pair. -/
def character (high low : Nat) : Char :=
  Char.ofNat (0x10000 + (high - 0xD800) * 0x400 + (low - 0xDC00))

/-- The characters of units, unless a surrogate stands alone. -/
def decode? : List Nat → Option (List Char)
  | [] => some []
  | unit :: rest =>
    if isHigh unit then
      match rest with
      | low :: rest => if isLow low then (decode? rest).map (character unit low :: ·) else none
      | [] => none
    else if isLow unit then none
    else (decode? rest).map (Char.ofNat unit :: ·)

example : decode? [0x61, 0xD83E, 0xDD80] = some ['a', '🦀'] := by decide

end FigureForm.Surrogates
