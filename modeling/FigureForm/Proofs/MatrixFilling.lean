/-
# Filling a matrix cell by cell

The entries of a matrix of pixels can also be stored one after the other, in the order of the pixels,
into a buffer of zeros with as many places as the first row and the first pixel call for.  Pixels of
another length are found on the way, when a part of the buffer is filled already.  `ofPixelsByFilling`
does this in words of 64 bits, and it stops when a size is no word and at the first place that is not
in the buffer.  It never comes to such a place, and it makes the matrix that `ofPixels?` makes.

What carries the loops is `Wrote`: the cells that were written hold what was written last, and all
others hold what they held.
-/

import FigureForm.Overflow
import FigureForm.Proofs.MatrixEntries

namespace FigureForm

/-! ## Places -/

/-- How many rows, columns and planes there are. -/
structure Shape where
  rows : Nat
  columns : Nat
  planes : Nat
  deriving DecidableEq, Repr

namespace Shape

/-- How many places a buffer of the shape has. -/
def size (shape : Shape) : Nat :=
  shape.rows * shape.columns * shape.planes

/-- Whether a row, column and plane are inside the shape. -/
def Inside (shape : Shape) (row column plane : Nat) : Prop :=
  row < shape.rows ∧ column < shape.columns ∧ plane < shape.planes

/-- Where the entry at a row, column and plane is stored. -/
def place (shape : Shape) (row column plane : Nat) : Nat :=
  plane * (shape.rows * shape.columns) + row * shape.columns + column

/-- Whether the size and the product on the way to it are words. -/
def FitsWords (shape : Shape) : Prop :=
  shape.rows * shape.columns < Matrix.sizeLimit ∧ shape.size < Matrix.sizeLimit

instance (shape : Shape) : Decidable shape.FitsWords :=
  inferInstanceAs (Decidable (_ ∧ _))

variable {shape : Shape}

theorem place_lt_size {row column plane : Nat} (inside : shape.Inside row column plane) :
    shape.place row column plane < shape.size := by
  let blank : Matrix :=
    ⟨shape.rows, shape.columns, shape.planes, Array.replicate shape.size 0.0, Array.size_replicate⟩
  have stored := blank.offset_lt_size inside.1 inside.2.1 inside.2.2
  rwa [blank.size_entries] at stored

theorem place_eq (shape : Shape) (row column plane : Nat) :
    shape.place row column plane =
      column + shape.columns * (row + shape.rows * plane) := by
  rw [place, Nat.mul_add]
  ac_rfl

/-- Different cells have different places, for row, column and plane are the digits of the place. -/
theorem place_injective {row column plane otherRow otherColumn otherPlane : Nat}
    (inside : shape.Inside row column plane)
    (otherInside : shape.Inside otherRow otherColumn otherPlane)
    (same : shape.place row column plane = shape.place otherRow otherColumn otherPlane) :
    row = otherRow ∧ column = otherColumn ∧ plane = otherPlane := by
  obtain ⟨inRows, inColumns, -⟩ := inside
  obtain ⟨otherInRows, otherInColumns, -⟩ := otherInside
  rw [place_eq, place_eq] at same
  have sameColumn : column = otherColumn := by
    have digit := congrArg (· % shape.columns) same
    simpa only [Nat.add_mul_mod_self_left, Nat.mod_eq_of_lt inColumns,
      Nat.mod_eq_of_lt otherInColumns] using digit
  subst sameColumn
  have rest : row + shape.rows * plane = otherRow + shape.rows * otherPlane :=
    Nat.eq_of_mul_eq_mul_left (Nat.zero_lt_of_lt inColumns) (Nat.add_left_cancel same)
  have sameRow : row = otherRow := by
    have digit := congrArg (· % shape.rows) rest
    simpa only [Nat.add_mul_mod_self_left, Nat.mod_eq_of_lt inRows,
      Nat.mod_eq_of_lt otherInRows] using digit
  subst sameRow
  exact ⟨rfl, rfl, Nat.eq_of_mul_eq_mul_left (Nat.zero_lt_of_lt inRows) (Nat.add_left_cancel rest)⟩

end Shape

/-! ## Storing in words -/

/-- Why a filling ends without a matrix: the pixels are uneven, a number is no word, or a place is
outside the buffer. -/
inductive FillingStop
  | uneven
  | overflow (operation : Overflow)
  | outside (place : Nat)
  deriving DecidableEq, Repr

/-- The outcome of a part of a filling. -/
abbrev Filled (α : Type) := Except FillingStop α

namespace Filled

/-- A number, if it is a word. -/
def word (operation : Overflow) (number : Nat) : Filled Nat :=
  if number < Matrix.sizeLimit then .ok number else .error (.overflow operation)

/-- The product of two words. -/
def times (first second : Nat) : Filled Nat :=
  word .multiplication (first * second)

/-- The sum of two words. -/
def plus (first second : Nat) : Filled Nat :=
  word .addition (first + second)

/-- What there is only for even pixels. -/
def ofEven {α : Type} : Option α → Filled α
  | some made => .ok made
  | none => .error .uneven

theorem word_of_lt (operation : Overflow) {number : Nat} (small : number < Matrix.sizeLimit) :
    word operation number = .ok number :=
  if_pos small

end Filled

namespace Shape

open Filled

/-- How many places the buffer needs. -/
def sizeInWords (shape : Shape) : Filled Nat := do
  times (← times shape.rows shape.columns) shape.planes

/-- The place of a cell. -/
def placeInWords (shape : Shape) (row column plane : Nat) : Filled Nat := do
  let planesBefore ← times (← times plane shape.rows) shape.columns
  let rowsBefore ← times row shape.columns
  plus (← plus planesBefore rowsBefore) column

/-- The buffer with a number stored at a place. -/
def store (place : Nat) (value : Float) (buffer : Array Float) : Filled (Array Float) :=
  if inside : place < buffer.size then .ok (buffer.set place value inside)
  else .error (.outside place)

/-- Stores the numbers of a pixel, counting planes from the given one. -/
def fillPixel (shape : Shape) (row column plane : Nat) :
    List Float → Array Float → Filled (Array Float)
  | [], buffer => .ok buffer
  | value :: rest, buffer => do
    let place ← shape.placeInWords row column plane
    let stored ← store place value buffer
    shape.fillPixel row column (plane + 1) rest stored

/-- Stores the pixels of a row, counting columns from the given one. -/
def fillRow (shape : Shape) (row column : Nat) :
    List (List Float) → Array Float → Filled (Array Float)
  | [], buffer => .ok buffer
  | pixel :: rest, buffer =>
    if pixel.length = shape.planes then do
      let stored ← shape.fillPixel row column 0 pixel buffer
      shape.fillRow row (column + 1) rest stored
    else .error .uneven

/-- Stores rows of pixels, counting rows from the given one. -/
def fillRows (shape : Shape) (row : Nat) :
    List (List (List Float)) → Array Float → Filled (Array Float)
  | [], buffer => .ok buffer
  | cells :: rest, buffer =>
    if cells.length = shape.columns then do
      let stored ← shape.fillRow row 0 cells buffer
      shape.fillRows (row + 1) rest stored
    else .error .uneven

/-- The shape that the first row and its first pixel call for. -/
def ofPixels (pixels : List (List (List Float))) : Shape :=
  ⟨pixels.length, Matrix.firstColumns pixels, Matrix.firstPlanes pixels⟩

variable {shape : Shape}

theorem sizeInWords_eq (shape : Shape) :
    shape.sizeInWords =
      if shape.FitsWords then .ok shape.size else .error (.overflow .multiplication) := by
  unfold sizeInWords FitsWords size times word
  by_cases area : shape.rows * shape.columns < Matrix.sizeLimit
  · rw [if_pos area]
    show (if _ then _ else _) = _
    simp only [area, true_and]
  · rw [if_neg area]
    simp only [area, false_and, if_false]
    rfl

/-- With a size that is a word every place inside is a word, and so is each number on the way to it. -/
theorem placeInWords_eq (small : shape.size < Matrix.sizeLimit) {row column plane : Nat}
    (inside : shape.Inside row column plane) :
    shape.placeInWords row column plane = .ok (shape.place row column plane) := by
  have inFactors : shape.place row column plane =
      plane * shape.rows * shape.columns + row * shape.columns + column := by
    rw [place, Nat.mul_assoc]
  have whole := Nat.lt_trans (place_lt_size inside) small
  rw [inFactors] at whole ⊢
  have planesBefore : plane * shape.rows * shape.columns < Matrix.sizeLimit := by omega
  -- The first product leaves out the columns, but there is at least one of them.
  have rowsOfPlanes : plane * shape.rows < Matrix.sizeLimit :=
    Nat.lt_of_le_of_lt (Nat.le_mul_of_pos_right _ (Nat.zero_lt_of_lt inside.2.1)) planesBefore
  have rowsBefore : row * shape.columns < Matrix.sizeLimit := by omega
  have before : plane * shape.rows * shape.columns + row * shape.columns < Matrix.sizeLimit := by
    omega
  simp only [placeInWords, times, plus, word_of_lt _ rowsOfPlanes, word_of_lt _ planesBefore,
    word_of_lt _ rowsBefore, word_of_lt _ before, word_of_lt _ whole, bind, Except.bind]

/-! ## What the loops write -/

/-- Numbers at rows, columns and planes. -/
abbrev Cells := Nat → Nat → Nat → Option Float

/-- From one buffer to another some cells of the shape were written, and no others were changed. -/
structure Wrote (shape : Shape) (cells : Cells) (before after : Array Float) : Prop where
  size_eq : after.size = before.size
  entry : ∀ row column plane, shape.Inside row column plane →
    after[shape.place row column plane]? =
      (cells row column plane).or before[shape.place row column plane]?

/-- A part of a filling goes through exactly when what it reads is even, and then it writes these
cells. -/
def Writes (shape : Shape) (even : Prop) (cells : Cells) (before : Array Float)
    (outcome : Filled (Array Float)) : Prop :=
  (even ∧ ∃ after, outcome = .ok after ∧ shape.Wrote cells before after) ∨
    (¬ even ∧ outcome = .error .uneven)

/-- A list whose first item has the given number, by the numbers of the items. -/
def numbered {α : Type} (start : Nat) (items : List α) (number : Nat) : Option α :=
  if start ≤ number then items[number - start]? else none

theorem numbered_zero {α : Type} (items : List α) (number : Nat) :
    numbered 0 items number = items[number]? :=
  if_pos (Nat.zero_le number)

theorem numbered_nil {α : Type} (start number : Nat) :
    numbered start ([] : List α) number = none := by
  unfold numbered
  split <;> rfl

theorem numbered_cons {α : Type} (start : Nat) (item : α) (rest : List α) (number : Nat) :
    numbered start (item :: rest) number =
      (numbered (start + 1) rest number).or (if number = start then some item else none) := by
  unfold numbered
  rcases Nat.lt_trichotomy number start with before | rfl | behind
  · rw [if_neg (by omega), if_neg (by omega), if_neg (by omega)]
    rfl
  · rw [if_pos (Nat.le_refl _), if_neg (by omega), if_pos rfl, Nat.sub_self]
    rfl
  · have next : number - start = number - (start + 1) + 1 := by omega
    rw [if_pos (by omega), if_pos (by omega), if_neg (by omega), next, Option.or_none]
    rfl

/-- What is looked up in the first item, or else in the items behind it. -/
theorem numbered_cons_bind {α β : Type} (start : Nat) (item : α) (rest : List α) (number : Nat)
    (look : α → Option β) :
    (numbered start (item :: rest) number).bind look =
      ((numbered (start + 1) rest number).bind look).or
        (if number = start then look item else none) := by
  rw [numbered_cons]
  by_cases first : number = start
  · have others : numbered (start + 1) rest number = none := if_neg (by omega)
    rw [others, if_pos first, if_pos first]
    rfl
  · rw [if_neg first, if_neg first, Option.or_none, Option.or_none]

/-- The numbers of a pixel at a row and column. -/
def cellsOfPixel (row column plane : Nat) (numbers : List Float) : Cells :=
  fun r c p => if r = row then if c = column then numbered plane numbers p else none else none

/-- The numbers of the pixels of a row. -/
def cellsOfRow (row column : Nat) (pixels : List (List Float)) : Cells :=
  fun r c p => if r = row then (numbered column pixels c).bind (·[p]?) else none

/-- The numbers of the pixels of rows. -/
def cellsOfRows (row : Nat) (rows : List (List (List Float))) : Cells :=
  fun r c p => (numbered row rows r).bind fun pixels => pixels[c]?.bind (·[p]?)

namespace Wrote

variable {cells others : Cells} {before between after : Array Float}

/-- Where nothing is written everything stays. -/
theorem refl (shape : Shape) (buffer : Array Float) :
    shape.Wrote (fun _ _ _ => none) buffer buffer :=
  ⟨rfl, fun _ _ _ _ => (Option.none_or).symm⟩

/-- What is written later stands over what was written before. -/
theorem trans (first : shape.Wrote cells before between) (second : shape.Wrote others between after) :
    shape.Wrote (fun row column plane => (others row column plane).or (cells row column plane))
      before after := by
  refine ⟨second.size_eq.trans first.size_eq, fun row column plane inside => ?_⟩
  rw [second.entry row column plane inside, first.entry row column plane inside, Option.or_assoc]

end Wrote

namespace Writes

variable {even later : Prop} {cells others : Cells} {before : Array Float}
  {outcome : Filled (Array Float)}

theorem congr (writes : shape.Writes even cells before outcome) (evenIff : later ↔ even)
    (same : ∀ row column plane, others row column plane = cells row column plane) :
    shape.Writes later others before outcome := by
  obtain rfl : later = even := propext evenIff
  obtain rfl : others = cells := funext fun row => funext fun column => funext (same row column)
  exact writes

/-- A part behind another one goes on with what the first left, in a buffer of the same size. -/
theorem bind {next : Array Float → Filled (Array Float)}
    (writes : shape.Writes even cells before outcome)
    (goesOn : ∀ after, after.size = before.size → shape.Writes later others after (next after)) :
    shape.Writes (even ∧ later)
      (fun row column plane => (others row column plane).or (cells row column plane))
      before (outcome >>= next) := by
  rcases writes with ⟨isEven, between, rfl, first⟩ | ⟨uneven, rfl⟩
  · rcases goesOn between first.size_eq with ⟨laterEven, after, through, second⟩ | ⟨uneven, stopped⟩
    · exact .inl ⟨⟨isEven, laterEven⟩, after, through, first.trans second⟩
    · exact .inr ⟨fun both => uneven both.2, stopped⟩
  · exact .inr ⟨fun both => uneven both.1, rfl⟩

/-- A part behind a look at a length. -/
theorem ofLength {length wanted : Nat}
    (writes : length = wanted → shape.Writes even cells before outcome) :
    shape.Writes (length = wanted ∧ even) cells before
      (if length = wanted then outcome else .error .uneven) := by
  by_cases same : length = wanted
  · rw [if_pos same]
    exact (writes same).congr (and_iff_right same) fun _ _ _ => rfl
  · rw [if_neg same]
    exact .inr ⟨fun both => same both.1, rfl⟩

end Writes

theorem writes_nothing (shape : Shape) (buffer : Array Float) :
    shape.Writes True (fun _ _ _ => none) buffer (.ok buffer) :=
  .inl ⟨trivial, buffer, rfl, .refl shape buffer⟩

/-- A number is stored in its cell and leaves all other cells alone. -/
theorem writes_store {buffer : Array Float} (size : buffer.size = shape.size)
    {row column plane : Nat} (inside : shape.Inside row column plane) (value : Float) :
    shape.Writes True
      (fun r c p =>
        if r = row then if c = column then if p = plane then some value else none else none else none)
      buffer (store (shape.place row column plane) value buffer) := by
  have bound : shape.place row column plane < buffer.size := size ▸ place_lt_size inside
  refine .inl ⟨trivial, _, dif_pos bound, Array.size_set bound, fun r c p otherInside => ?_⟩
  rw [Array.getElem?_set bound]
  by_cases same : shape.place row column plane = shape.place r c p
  · obtain ⟨rfl, rfl, rfl⟩ := place_injective inside otherInside same
    rw [if_pos rfl, if_pos rfl, if_pos rfl, if_pos rfl]
    rfl
  · have apart : ¬ (r = row ∧ c = column ∧ p = plane) := by
      rintro ⟨rfl, rfl, rfl⟩
      exact same rfl
    rw [if_neg same]
    split
    next sameRow =>
      split
      next sameColumn =>
        rw [if_neg fun samePlane => apart ⟨sameRow, sameColumn, samePlane⟩, Option.none_or]
      next => rw [Option.none_or]
    next => rw [Option.none_or]

/-- The numbers of a pixel are stored in its planes. -/
theorem writes_fillPixel (small : shape.size < Matrix.sizeLimit) (row column plane : Nat)
    (inRows : row < shape.rows) (inColumns : column < shape.columns) (numbers : List Float)
    (room : plane + numbers.length ≤ shape.planes) {buffer : Array Float}
    (size : buffer.size = shape.size) :
    shape.Writes True (cellsOfPixel row column plane numbers) buffer
      (shape.fillPixel row column plane numbers buffer) := by
  -- Each step leaves another buffer to the next, so the induction is for all buffers of the size.
  induction numbers generalizing plane buffer with
  | nil =>
    refine (writes_nothing shape buffer).congr Iff.rfl fun r c p => ?_
    rw [cellsOfPixel, numbered_nil, ite_self, ite_self]
  | cons value rest ih =>
    rw [List.length_cons] at room
    have inside : shape.Inside row column plane := ⟨inRows, inColumns, by omega⟩
    have first := writes_store size inside value
    rw [fillPixel, placeInWords_eq small inside]
    refine (first.bind fun stored same =>
      ih (plane + 1) (by omega) (same.trans size)).congr and_self_iff.symm ?_
    intro r c p
    unfold cellsOfPixel
    split
    · split
      · rw [numbered_cons]
      · rfl
    · rfl

/-- The pixels of a row are stored in its columns, if they have as many numbers as there are planes. -/
theorem writes_fillRow (small : shape.size < Matrix.sizeLimit) (row column : Nat)
    (inRows : row < shape.rows) (pixels : List (List Float))
    (room : column + pixels.length ≤ shape.columns) {buffer : Array Float}
    (size : buffer.size = shape.size) :
    shape.Writes (EvenRows shape.planes pixels) (cellsOfRow row column pixels) buffer
      (shape.fillRow row column pixels buffer) := by
  induction pixels generalizing column buffer with
  | nil =>
    refine (writes_nothing shape buffer).congr (iff_true_intro fun _ none => nomatch none) ?_
    intro r c p
    rw [cellsOfRow, numbered_nil]
    exact ite_self _
  | cons pixel rest ih =>
    rw [List.length_cons] at room
    have first (length : pixel.length = shape.planes) :=
      writes_fillPixel small row column 0 inRows (by omega) pixel (by omega) size
    rw [fillRow]
    refine (Writes.ofLength fun length => (first length).bind fun stored same =>
      ih (column + 1) (by omega) (same.trans size)).congr ?_ ?_
    · rw [EvenRows, List.forall_mem_cons, true_and]
      rfl
    · intro r c p
      unfold cellsOfRow cellsOfPixel
      rw [numbered_cons_bind, numbered_zero]
      split
      · rfl
      · rfl

/-- Rows of pixels are stored in the rows of the buffer, if they are even. -/
theorem writes_fillRows (small : shape.size < Matrix.sizeLimit) (row : Nat)
    (pixels : List (List (List Float))) (room : row + pixels.length ≤ shape.rows)
    {buffer : Array Float} (size : buffer.size = shape.size) :
    shape.Writes (Matrix.EvenPixels shape.columns shape.planes pixels) (cellsOfRows row pixels) buffer
      (shape.fillRows row pixels buffer) := by
  induction pixels generalizing row buffer with
  | nil =>
    refine (writes_nothing shape buffer).congr
      (iff_true_intro ⟨fun _ none => (nomatch none), fun _ none => nomatch none⟩) fun r c p => ?_
    rw [cellsOfRows, numbered_nil]
    rfl
  | cons cells rest ih =>
    rw [List.length_cons] at room
    have first (length : cells.length = shape.columns) :=
      writes_fillRow small row 0 (by omega) cells (by omega) size
    rw [fillRows]
    refine (Writes.ofLength fun length => (first length).bind fun stored same =>
      ih (row + 1) (by omega) (same.trans size)).congr ?_ ?_
    · rw [Matrix.EvenPixels, EvenRows, List.forall_mem_cons, List.forall_mem_cons]
      exact and_assoc.trans (and_congr_right fun _ => and_left_comm)
    · intro r c p
      unfold cellsOfRows cellsOfRow
      rw [numbered_cons_bind, numbered_zero]

end Shape

namespace Matrix

open Shape Filled

variable {pixels : List (List (List Float))}

/-- The shape of a matrix. -/
def shape (m : Matrix) : Shape :=
  ⟨m.rows, m.columns, m.planes⟩

/-- The matrix of pixels by storing them one after the other. -/
def ofPixelsByFilling (pixels : List (List (List Float))) : Filled Matrix := do
  let shape := Shape.ofPixels pixels
  let size ← shape.sizeInWords
  let entries ← shape.fillRows 0 pixels (Array.replicate size 0.0)
  ofEven (sized? shape.rows shape.columns shape.planes entries)

/-- Every cell inside the shape of a matrix has an entry, the one at its place. -/
theorem exists_stored (m : Matrix) {row column plane : Nat}
    (inside : m.shape.Inside row column plane) :
    ∃ _bound : m.offset row column plane < m.entries.size,
      m.get? row column plane = some m.entries[m.offset row column plane] :=
  have bound := m.offset_lt_size inside.1 inside.2.1 inside.2.2
  ⟨bound, (if_pos inside).trans (Array.getElem?_eq_getElem bound)⟩

/-- A buffer in which all pixels were written holds the entries of their matrix. -/
theorem sized?_of_wrote (fits : (Shape.ofPixels pixels).FitsWords)
    (even : EvenPixels (firstColumns pixels) (firstPlanes pixels) pixels) {before after : Array Float}
    (size : before.size = (Shape.ofPixels pixels).size)
    (wrote : (Shape.ofPixels pixels).Wrote (cellsOfRows 0 pixels) before after) :
    sized? pixels.length (firstColumns pixels) (firstPlanes pixels) after =
      some (ofEvenPixels even) := by
  let matrix : Matrix :=
    ⟨pixels.length, firstColumns pixels, firstPlanes pixels, after, wrote.size_eq.trans size⟩
  have sized : sized? pixels.length (firstColumns pixels) (firstPlanes pixels) after = some matrix :=
    (if_pos fits).trans (dif_pos matrix.size_entries)
  have same : matrix = ofEvenPixels even := by
    refine ext_get? rfl rfl rfl fun row column plane => ?_
    by_cases inside : (Shape.ofPixels pixels).Inside row column plane
    · have shown : (ofEvenPixels even).get? row column plane = cellsOfRows 0 pixels row column plane :=
        by rw [get?_ofEvenPixels, cellsOfRows, numbered_zero, Option.bind_assoc]
      -- The cell was written, so that the zero below it does not show.
      obtain ⟨_, there⟩ := (ofEvenPixels even).exists_stored inside
      calc matrix.get? row column plane
          = after[(Shape.ofPixels pixels).place row column plane]? := if_pos inside
        _ = (ofEvenPixels even).get? row column plane := by
          rw [wrote.entry row column plane inside, ← shown, there, Option.some_or]
    · exact (if_neg inside).trans (if_neg inside).symm
  rw [sized, same]

/-- Storing the pixels one after the other makes their matrix, once the size is a word. -/
theorem ofPixelsByFilling_eq (pixels : List (List (List Float))) :
    ofPixelsByFilling pixels =
      if (Shape.ofPixels pixels).FitsWords then ofEven (ofPixels? pixels)
      else .error (.overflow .multiplication) := by
  unfold ofPixelsByFilling
  dsimp only
  rw [sizeInWords_eq]
  by_cases fits : (Shape.ofPixels pixels).FitsWords
  · rw [if_pos fits, if_pos fits]
    have size : (Array.replicate (Shape.ofPixels pixels).size (0.0 : Float)).size =
        (Shape.ofPixels pixels).size := Array.size_replicate
    have writes := writes_fillRows fits.2 0 pixels (Nat.le_of_eq (Nat.zero_add _)) size
    show (do
      let entries ← (Shape.ofPixels pixels).fillRows 0 pixels
        (Array.replicate (Shape.ofPixels pixels).size 0.0)
      ofEven (sized? _ _ _ entries)) = _
    rcases writes with ⟨even, entries, filled, wrote⟩ | ⟨uneven, stopped⟩
    · rw [filled, ofPixels?_of_even even, ← sized?_of_wrote fits even size wrote]
      rfl
    · have none : ofPixels? pixels = none :=
        Option.eq_none_iff_forall_ne_some.mpr fun matrix made => uneven (even_of_ofPixels? made)
      rw [stopped, none]
      rfl
  · rw [if_neg fits, if_neg fits]
    rfl

end Matrix

end FigureForm
