/-
# Whole numbers in bytes, most significant first

Writing whole numbers of a fixed width as bytes, and reading them from a place in a block of bytes.
Reading beyond the end gives nothing.
-/

namespace FigureForm.BigEndian

/-- The low bytes of a number, as many as `width`, most significant first. -/
def encode : (width : Nat) → Nat → List UInt8
  | 0, _ => []
  | width + 1, value => encode width (value / 256) ++ [UInt8.ofNat value]

/-- The number with these bytes. -/
def decode (bytes : List UInt8) : Nat :=
  bytes.foldl (fun total byte => total * 256 + byte.toNat) 0

/-- The bytes from a place on, if there are as many as `width`. -/
def slice? (block : ByteArray) (start width : Nat) : Option (List UInt8) :=
  if start + width ≤ block.size then some (block.extract start (start + width)).data.toList
  else none

/-- The number that stands at a place. -/
def read? (block : ByteArray) (start width : Nat) : Option Nat :=
  (slice? block start width).map decode

/-- The two-byte number at a place. -/
def word? (block : ByteArray) (start : Nat) : Option Nat :=
  read? block start 2

/-- The four-byte number at a place. -/
def long? (block : ByteArray) (start : Nat) : Option Nat :=
  read? block start 4

/-- Two bytes hold the numbers below this. -/
def wordLimit : Nat := 0x10000

/-- Four bytes hold the numbers below this. -/
def longLimit : Nat := 0x100000000

/-- A number of as many bytes as `width` as one with a sign. -/
def signed (width value : Nat) : Int :=
  if 2 * value < 1 <<< (8 * width) then value else value - (1 <<< (8 * width) : Nat)

/-- The number with a sign that stands at a place. -/
def readSigned? (block : ByteArray) (start width : Nat) : Option Int :=
  (read? block start width).map (signed width)

/-- The two-byte number with a sign at a place. -/
def signedWord? (block : ByteArray) (start : Nat) : Option Int :=
  readSigned? block start 2

@[simp]
theorem length_encode (width value : Nat) : (encode width value).length = width := by
  induction width generalizing value with
  | zero => rfl
  | succ width ih => simp [encode, ih]

theorem decode_concat (bytes : List UInt8) (byte : UInt8) :
    decode (bytes ++ [byte]) = decode bytes * 256 + byte.toNat := by
  simp [decode]

/-- What was written reads back when it fits. -/
theorem decode_encode {width value : Nat} (h : value < 1 <<< (8 * width)) :
    decode (encode width value) = value := by
  induction width generalizing value with
  | zero =>
    have : value = 0 := by simpa using h
    subst this
    rfl
  | succ width ih =>
    have fits : value / 256 < 1 <<< (8 * width) := by
      rw [Nat.div_lt_iff_lt_mul (by decide)]
      rwa [Nat.one_shiftLeft, Nat.mul_succ, Nat.pow_add, ← Nat.one_shiftLeft] at h
    rw [encode, decode_concat, ih fits, UInt8.toNat_ofNat']
    omega

end FigureForm.BigEndian
