/-
# Checksums of bytes

The cyclic redundancy check of chunks and the two running sums of compressed data, each as a fold of
a step over the bytes.
-/

namespace FigureForm.Checksum

/-- One bit of the cyclic redundancy check. -/
def cyclicBit (state : UInt32) : UInt32 :=
  if state &&& 1 = 1 then (state >>> 1) ^^^ 0xEDB88320 else state >>> 1

/-- One byte of the cyclic redundancy check. -/
def cyclicByte (state : UInt32) (byte : UInt8) : UInt32 :=
  (List.range 8).foldl (fun state _ => cyclicBit state) (state ^^^ byte.toUInt32)

/-- The cyclic redundancy check of bytes. -/
def cyclic (bytes : List UInt8) : UInt32 :=
  bytes.foldl cyclicByte 0xFFFFFFFF ^^^ 0xFFFFFFFF

/-- The running sums after one more byte. -/
def sumsByte (sums : Nat × Nat) (byte : UInt8) : Nat × Nat :=
  let low := (sums.1 + byte.toNat) % 65521
  (low, (sums.2 + low) % 65521)

/-- The sum of the bytes and the sum of its intermediate values, side by side in one number. -/
def sums (bytes : List UInt8) : Nat :=
  let (low, high) := bytes.foldl sumsByte (1, 0)
  high * 65536 + low

example : cyclic "123456789".toUTF8.data.toList = 0xCBF43926 := by decide +kernel
example : sums "Wikipedia".toUTF8.data.toList = 0x11E60398 := by decide +kernel

end FigureForm.Checksum
