/-
# Image files

Rasters as PNG files with eight bits in each of four channels.  The rows are written unfiltered
and uncompressed, in stored blocks; `decode?` reads such files back and checks every checksum and
length on the way.

These files take the place of those that an outside image library writes, which is no part of the
program.  Other encoders compress the rows, so the bytes of a file differ from theirs; what is the
same is the raster that it decodes to.
-/

import FigureForm.Bytes.BigEndian
import FigureForm.Bytes.Checksum
import FigureForm.Image.Raster

namespace FigureForm

/-- Why a raster cannot be written as an image file. -/
inductive ImageFault
  | zeroWidth
  | zeroHeight
  deriving DecidableEq, Repr

/-- What is said about such a raster. -/
def ImageFault.message : ImageFault → String
  | zeroWidth => "Zero width not allowed"
  | zeroHeight => "Zero height not allowed"

namespace Png

/-- What every file begins with. -/
def signature : List UInt8 :=
  [0x89, 0x50, 0x4E, 0x47, 0x0D, 0x0A, 0x1A, 0x0A]

/-- The type of the chunk with the dimensions. -/
def headerType : List UInt8 :=
  [0x49, 0x48, 0x44, 0x52]

/-- The type of the chunks with the rows. -/
def dataType : List UInt8 :=
  [0x49, 0x44, 0x41, 0x54]

/-- The type of the last chunk. -/
def endType : List UInt8 :=
  [0x49, 0x45, 0x4E, 0x44]

/-- A chunk with its length in front and its checksum behind. -/
def chunk (type body : List UInt8) : List UInt8 :=
  BigEndian.encode 4 body.length ++ type ++ body ++
    BigEndian.encode 4 (Checksum.cyclic (type ++ body)).toNat

/-- The dimensions, eight bits in each channel, four channels, and no interlacing. -/
def header (raster : Raster) : List UInt8 :=
  BigEndian.encode 4 raster.width ++ BigEndian.encode 4 raster.height ++ [8, 6, 0, 0, 0]

/-- Bytes cut into rows of a length, each with a zero in front. -/
def rowsOf (length : Nat) : (count : Nat) → List UInt8 → List UInt8
  | 0, _ => []
  | count + 1, bytes => 0 :: bytes.take length ++ rowsOf length count (bytes.drop length)

/-- The largest number of bytes in a stored block. -/
def blockLimit : Nat := 65535

/-- A number of two bytes, least significant first. -/
def littleWord (value : Nat) : List UInt8 :=
  [UInt8.ofNat value, UInt8.ofNat (value / 256)]

/-- A stored block. -/
def storedBlock (final : Bool) (bytes : List UInt8) : List UInt8 :=
  (if final then 1 else 0) :: littleWord bytes.length ++ littleWord (65535 - bytes.length) ++ bytes

/-- Bytes in stored blocks, with at most `more` blocks in front of the last. -/
def storedBlocks : (more : Nat) → List UInt8 → List UInt8
  | 0, bytes => storedBlock true bytes
  | more + 1, bytes =>
    if bytes.length ≤ blockLimit then storedBlock true bytes
    else
      storedBlock false (bytes.take blockLimit) ++ storedBlocks more (bytes.drop blockLimit)

/-- Bytes as compressed data that compresses nothing. -/
def stored (bytes : List UInt8) : List UInt8 :=
  [0x78, 0x01] ++ storedBlocks (bytes.length / blockLimit) bytes ++
    BigEndian.encode 4 (Checksum.sums bytes)

/-- The file of a raster. -/
def encode (raster : Raster) : Except ImageFault ByteArray :=
  if raster.width = 0 then .error .zeroWidth
  else if raster.height = 0 then .error .zeroHeight
  else
    let rows := rowsOf (4 * raster.width) raster.height raster.bytes
    let bytes := signature ++ chunk headerType (header raster) ++ chunk dataType (stored rows) ++
      chunk endType []
    .ok ⟨bytes.toArray⟩

/-! ## Reading -/

/-- Takes a number of bytes from the front, if there are as many. -/
def takeExactly? (count : Nat) (bytes : List UInt8) : Option (List UInt8 × List UInt8) :=
  if count ≤ bytes.length then some (bytes.take count, bytes.drop count) else none

/-- A chunk at the front of a file: its type, its body and what follows it. -/
def readChunk? (bytes : List UInt8) : Option (List UInt8 × List UInt8 × List UInt8) := do
  let (length, rest) ← takeExactly? 4 bytes
  let (type, rest) ← takeExactly? 4 rest
  let (body, rest) ← takeExactly? (BigEndian.decode length) rest
  let (check, rest) ← takeExactly? 4 rest
  if BigEndian.decode check = (Checksum.cyclic (type ++ body)).toNat then some (type, body, rest)
  else none

/-- The data of the chunks up to the last, of which there are at most `more` others. -/
def readData? : (more : Nat) → List UInt8 → Option (List UInt8)
  | 0, _ => none
  | more + 1, bytes => do
    let (type, body, rest) ← readChunk? bytes
    if type = endType then some []
    else
      let data ← readData? more rest
      some (if type = dataType then body ++ data else data)

/-- A little-endian number of two bytes. -/
def ofLittleWord : List UInt8 → Nat
  | [low, high] => low.toNat + 256 * high.toNat
  | _ => 0

/-- The bytes in stored blocks, of which there are at most `more`, and what follows the blocks. -/
def readBlocks? : (more : Nat) → List UInt8 → Option (List UInt8 × List UInt8)
  | 0, _ => none
  | more + 1, bytes => do
    let (kind, rest) ← takeExactly? 1 bytes
    let (length, rest) ← takeExactly? 2 rest
    let (complement, rest) ← takeExactly? 2 rest
    let (body, rest) ← takeExactly? (ofLittleWord length) rest
    if ofLittleWord length + ofLittleWord complement ≠ 65535 then none
    else if kind = [1] then some (body, rest)
    else if kind = [0] then
      let (others, rest) ← readBlocks? more rest
      some (body ++ others, rest)
    else none

/-- The bytes of compressed data in stored blocks. -/
def readStored? (bytes : List UInt8) : Option (List UInt8) := do
  let (start, rest) ← takeExactly? 2 bytes
  let (content, check) ← readBlocks? rest.length rest
  if start = [0x78, 0x01] ∧ check = BigEndian.encode 4 (Checksum.sums content) then some content
  else none

/-- The pixels of bytes, four for each. -/
def pixelsOf : List UInt8 → List Pixel
  | red :: green :: blue :: alpha :: rest => ⟨red, green, blue, alpha⟩ :: pixelsOf rest
  | _ => []

/-- The bytes of rows without the zeros in front of them. -/
def readRows? (length : Nat) : (count : Nat) → List UInt8 → Option (List UInt8)
  | 0, bytes => if bytes.isEmpty then some [] else none
  | count + 1, bytes => do
    let (filter, rest) ← takeExactly? 1 bytes
    let (row, rest) ← takeExactly? length rest
    let others ← readRows? length count rest
    if filter = [0] then some (row ++ others) else none

/-- The raster in a file. -/
def decode? (file : ByteArray) : Option Raster := do
  let (start, rest) ← takeExactly? 8 file.data.toList
  let (type, body, rest) ← readChunk? rest
  if start ≠ signature ∨ type ≠ headerType then none
  let width := BigEndian.decode (body.take 4)
  let height := BigEndian.decode ((body.drop 4).take 4)
  if body.drop 8 ≠ [8, 6, 0, 0, 0] then none
  let rows ← readStored? (← readData? rest.length rest)
  let bytes ← readRows? (4 * width) height rows
  Raster.ofPixels? width height (pixelsOf bytes).toArray

end Png

end FigureForm
