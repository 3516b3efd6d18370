/-
# Image files read back

A raster with pixels has a file.  Every part of the file is taken off its front again in the way in
which it was written: chunks, stored blocks, rows and pixels.  So the file gives the raster back, as
long as the lengths in it fit into four bytes.
-/

import FigureForm.Image.Png

namespace FigureForm

theorem Raster.hasPixels_iff {raster : Raster} :
    raster.hasPixels = true ↔ 0 < raster.width ∧ 0 < raster.height := by
  simp [hasPixels]

namespace Png

variable {type body rest bytes : List UInt8}

/-! ## Writing -/

/-- The rows of a raster as they stand in its file. -/
def rows (raster : Raster) : List UInt8 :=
  rowsOf (4 * raster.width) raster.height raster.bytes

/-- The bytes of the file of a raster. -/
def fileBytes (raster : Raster) : List UInt8 :=
  signature ++ (chunk headerType (header raster) ++
    (chunk dataType (stored (rows raster)) ++ chunk endType []))

/-- Whether the dimensions of a raster and the length of its data fit into four bytes each. -/
def Fits (raster : Raster) : Prop :=
  raster.width < BigEndian.longLimit ∧ raster.height < BigEndian.longLimit ∧
    (stored (rows raster)).length < BigEndian.longLimit

theorem encode_eq_ok {raster : Raster} (pixels : raster.hasPixels = true) :
    encode raster = .ok ⟨(fileBytes raster).toArray⟩ := by
  obtain ⟨wide, high⟩ := Raster.hasPixels_iff.mp pixels
  rw [encode, if_neg (Nat.ne_of_gt wide), if_neg (Nat.ne_of_gt high), fileBytes]
  simp only [List.append_assoc]
  rfl

/-! ## Taking parts off the front -/

theorem takeExactly?_append {count : Nat} (length : bytes.length = count) (rest : List UInt8) :
    takeExactly? count (bytes ++ rest) = some (bytes, rest) := by
  subst length
  simp [takeExactly?]

theorem decode_encode_long {value : Nat} (small : value < BigEndian.longLimit) :
    BigEndian.decode (BigEndian.encode 4 value) = value := by
  have limit : BigEndian.longLimit = 1 <<< (8 * 4) := by decide
  exact BigEndian.decode_encode (limit ▸ small)

theorem readChunk?_chunk (four : type.length = 4) (short : body.length < BigEndian.longLimit)
    (rest : List UInt8) : readChunk? (chunk type body ++ rest) = some (type, body, rest) := by
  have check : BigEndian.decode (BigEndian.encode 4 (Checksum.cyclic (type ++ body)).toNat) =
      (Checksum.cyclic (type ++ body)).toNat :=
    decode_encode_long (UInt32.toNat_lt _)
  rw [chunk, List.append_assoc, List.append_assoc, List.append_assoc, readChunk?]
  simp only [takeExactly?_append (BigEndian.length_encode 4 _), takeExactly?_append four,
    takeExactly?_append rfl, decode_encode_long short, check, Option.bind_eq_bind,
    Option.bind_some, if_true]

theorem length_chunk (four : type.length = 4) : (chunk type body).length = body.length + 12 := by
  simp only [chunk, List.length_append, BigEndian.length_encode, four]
  omega

/-- One chunk of data in front of the last chunk. -/
theorem readData?_chunk (more : Nat) (short : body.length < BigEndian.longLimit) :
    readData? (more + 2) (chunk dataType body ++ chunk endType []) = some body := by
  have last : readChunk? (chunk endType []) = some (endType, [], []) := by
    have read : readChunk? (chunk endType [] ++ []) = some (endType, [], []) :=
      readChunk?_chunk rfl (by decide) []
    rwa [List.append_nil] at read
  rw [readData?, readChunk?_chunk rfl short]
  simp only [Option.bind_eq_bind, Option.bind_some]
  rw [if_neg (by decide), readData?, last]
  simp only [Option.bind_eq_bind, Option.bind_some, if_true, List.append_nil]

/-! ## Stored blocks -/

theorem ofLittleWord_littleWord {value : Nat} (small : value ≤ 65535) :
    ofLittleWord (littleWord value) = value := by
  rw [littleWord, ofLittleWord, UInt8.toNat_ofNat', UInt8.toNat_ofNat']
  omega

/-- A block gives its bytes, and those of the blocks behind it unless it is the last. -/
theorem readBlocks?_storedBlock (more : Nat) (final : Bool) (small : bytes.length ≤ blockLimit)
    (rest : List UInt8) :
    readBlocks? (more + 1) (storedBlock final bytes ++ rest) =
      if final then some (bytes, rest)
      else (readBlocks? more rest).map fun others => (bytes ++ others.1, others.2) := by
  have length : ofLittleWord (littleWord bytes.length) = bytes.length :=
    ofLittleWord_littleWord small
  have complement : ofLittleWord (littleWord (65535 - bytes.length)) = 65535 - bytes.length :=
    ofLittleWord_littleWord (Nat.sub_le 65535 bytes.length)
  have sum : bytes.length + (65535 - bytes.length) = 65535 := Nat.add_sub_of_le small
  have kind : storedBlock final bytes ++ rest =
      [if final then 1 else 0] ++ (littleWord bytes.length ++
        (littleWord (65535 - bytes.length) ++ (bytes ++ rest))) := by
    simp [storedBlock]
  have word (value : Nat) : (littleWord value).length = 2 := rfl
  rw [kind, readBlocks?]
  simp only [takeExactly?_append (word _), takeExactly?_append rfl, length, complement, sum,
    takeExactly?_append (List.length_singleton), Option.bind_eq_bind, Option.bind_some]
  cases final with
  | true => rfl
  | false => cases readBlocks? more rest <;> rfl

theorem length_storedBlock (final : Bool) (bytes : List UInt8) :
    (storedBlock final bytes).length = bytes.length + 5 := by
  simp only [storedBlock, littleWord, List.length_append, List.length_cons, List.length_nil]
  omega

/-- Blocks give all their bytes.  Every block takes one step, and none is empty. -/
theorem readBlocks?_storedBlocks {more : Nat} (enough : bytes.length ≤ blockLimit * (more + 1))
    {fuel : Nat} (fueled : (storedBlocks more bytes).length ≤ fuel) (rest : List UInt8) :
    readBlocks? fuel (storedBlocks more bytes ++ rest) = some (bytes, rest) := by
  have last {fuel : Nat} {bytes : List UInt8} (small : bytes.length ≤ blockLimit)
      (fueled : (storedBlock true bytes).length ≤ fuel) :
      readBlocks? fuel (storedBlock true bytes ++ rest) = some (bytes, rest) := by
    rw [length_storedBlock] at fueled
    obtain ⟨others, rfl⟩ : ∃ others, fuel = others + 1 := ⟨fuel - 1, by omega⟩
    rw [readBlocks?_storedBlock others true small, if_pos rfl]
  induction more generalizing bytes fuel with
  | zero => exact last enough fueled
  | succ more ih =>
    rw [storedBlocks] at fueled ⊢
    split
    next small =>
      rw [if_pos small] at fueled
      exact last small fueled
    next large =>
      have small : (bytes.take blockLimit).length ≤ blockLimit := List.length_take_le _ _
      rw [if_neg large, List.length_append, length_storedBlock] at fueled
      obtain ⟨others, rfl⟩ : ∃ others, fuel = others + 1 := ⟨fuel - 1, by omega⟩
      have remaining : (bytes.drop blockLimit).length ≤ blockLimit * (more + 1) := by
        rw [List.length_drop, Nat.sub_le_iff_le_add, ← Nat.mul_succ]
        exact enough
      rw [List.append_assoc, readBlocks?_storedBlock others false small, if_neg Bool.false_ne_true,
        ih remaining (by omega), Option.map_some, List.take_append_drop]

theorem length_le_of_blocks (bytes : List UInt8) :
    bytes.length ≤ blockLimit * (bytes.length / blockLimit + 1) :=
  Nat.le_of_lt (Nat.lt_mul_div_succ bytes.length (by decide))

/-- Stored data gives its bytes, with the sums at its end checked. -/
theorem readStored?_stored (bytes : List UInt8) : readStored? (stored bytes) = some bytes := by
  have start : ([0x78, 0x01] : List UInt8).length = 2 := rfl
  have fueled : (storedBlocks (bytes.length / blockLimit) bytes).length ≤
      (storedBlocks (bytes.length / blockLimit) bytes ++
        BigEndian.encode 4 (Checksum.sums bytes)).length := by
    rw [List.length_append]
    exact Nat.le_add_right _ _
  rw [stored, List.append_assoc, readStored?, takeExactly?_append start]
  simp only [Option.bind_eq_bind, Option.bind_some]
  rw [readBlocks?_storedBlocks (length_le_of_blocks bytes) fueled, Option.bind_some]
  dsimp only
  rw [if_pos ⟨trivial, rfl⟩]

/-! ## Rows and pixels -/

theorem readRows?_rowsOf {length count : Nat} (full : bytes.length = length * count) :
    readRows? length count (rowsOf length count bytes) = some bytes := by
  induction count generalizing bytes with
  | zero =>
    rw [Nat.mul_zero, List.length_eq_zero_iff] at full
    rw [full]
    rfl
  | succ count ih =>
    have one : (bytes.take length).length = length := by
      rw [List.length_take, full, Nat.mul_succ]
      omega
    have others : (bytes.drop length).length = length * count := by
      rw [List.length_drop, full, Nat.mul_succ, Nat.add_sub_cancel]
    have zero : rowsOf length (count + 1) bytes =
        [0] ++ (bytes.take length ++ rowsOf length count (bytes.drop length)) := rfl
    rw [zero, readRows?, takeExactly?_append (List.length_singleton)]
    simp only [Option.bind_eq_bind, Option.bind_some, takeExactly?_append one, ih others, if_true,
      List.take_append_drop]

theorem pixelsOf_bytes (pixels : List Pixel) : pixelsOf (pixels.flatMap Pixel.bytes) = pixels := by
  induction pixels with
  | nil => rfl
  | cons pixel rest ih =>
    rw [List.flatMap_cons, Pixel.bytes]
    exact congrArg (pixel :: ·) ih

theorem length_bytes (raster : Raster) :
    raster.bytes.length = 4 * raster.width * raster.height := by
  have four : (fun pixel : Pixel => pixel.bytes.length) = fun _ => 4 := rfl
  rw [Raster.bytes, List.length_flatMap, four, List.map_const', List.sum_replicate_nat,
    Array.length_toList, raster.size_pixels, Nat.mul_comm, Nat.mul_assoc]

theorem ofPixels?_pixels (raster : Raster) :
    Raster.ofPixels? raster.width raster.height raster.pixels = some raster := by
  rw [Raster.ofPixels?, dif_pos raster.size_pixels]

/-- The file of a raster gives the raster back. -/
theorem decode?_fileBytes {raster : Raster} (fits : Fits raster) :
    decode? ⟨(fileBytes raster).toArray⟩ = some raster := by
  obtain ⟨wide, high, long⟩ := fits
  have signed : signature.length = 8 := rfl
  have typed : headerType.length = 4 := rfl
  have headed : (header raster).length < BigEndian.longLimit := by
    simp [header, BigEndian.longLimit]
  have width : BigEndian.decode ((header raster).take 4) = raster.width := by
    simpa [header] using decode_encode_long wide
  have height : BigEndian.decode (((header raster).drop 4).take 4) = raster.height := by
    simpa [header] using decode_encode_long high
  have kind : (header raster).drop 8 = [8, 6, 0, 0, 0] :=
    List.drop_left' (by simp)
  have data : readData? (chunk dataType (stored (rows raster)) ++ chunk endType []).length
      (chunk dataType (stored (rows raster)) ++ chunk endType []) =
        some (stored (rows raster)) := by
    rw [List.length_append, length_chunk rfl, length_chunk rfl]
    exact readData?_chunk _ long
  have pixels : readRows? (4 * raster.width) raster.height (rows raster) = some raster.bytes :=
    readRows?_rowsOf (length_bytes raster)
  rw [decode?, fileBytes]
  simp only [takeExactly?_append signed, readChunk?_chunk typed headed,
    Option.bind_eq_bind, Option.bind_some, kind, ne_eq, not_true_eq_false, or_self, if_false,
    width, height, data, readStored?_stored, pixels]
  rw [Raster.bytes, pixelsOf_bytes, Array.toArray_toList, ofPixels?_pixels]

end Png

end FigureForm
