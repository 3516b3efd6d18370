/-
# What a matrix stores

Rows and pixels of one length each are kept whole by their matrix, whatever their shape, and all others
make none.  The entries are as many as the shape has cells; every cell has a place of its own among
them, and nothing is read outside the shape.
-/

import FigureForm.Proofs.MatrixFilling

namespace FigureForm

namespace Matrix

/-! ## Reading -/

/-- Every cell inside the shape is read from a place of its own, and none outside. -/
structure KeepsCellsApart (m : Matrix) : Prop where
  isSome_get?_iff : ∀ row column plane,
    (m.get? row column plane).isSome ↔ m.shape.Inside row column plane
  stored : ∀ row column plane, m.shape.Inside row column plane →
    ∃ _bound : m.offset row column plane < m.entries.size,
      m.get? row column plane = some m.entries[m.offset row column plane]
  apart : ∀ row column plane otherRow otherColumn otherPlane,
    m.shape.Inside row column plane → m.shape.Inside otherRow otherColumn otherPlane →
    m.offset row column plane = m.offset otherRow otherColumn otherPlane →
    row = otherRow ∧ column = otherColumn ∧ plane = otherPlane

theorem keepsCellsApart (m : Matrix) : m.KeepsCellsApart where
  isSome_get?_iff row column plane := by
    by_cases inside : m.shape.Inside row column plane
    · obtain ⟨_, there⟩ := m.exists_stored inside
      rw [there]
      exact iff_of_true rfl inside
    · have nothing : m.get? row column plane = none := if_neg inside
      rw [nothing]
      exact iff_of_false Bool.false_ne_true inside
  stored _ _ _ inside := m.exists_stored inside
  apart _ _ _ _ _ _ inside otherInside same := Shape.place_injective inside otherInside same

/-! ## Making -/

/-- A matrix is made of entries exactly when they are as many as its shape has cells and their number
is a word, as is the number of cells in a plane. -/
theorem sized?_eq_some_iff {shape : Shape} {entries : Array Float} {m : Matrix} :
    sized? shape.rows shape.columns shape.planes entries = some m ↔
      shape.FitsWords ∧ entries.size = shape.size ∧ m.shape = shape ∧ m.entries = entries := by
  constructor
  · intro made
    unfold sized? ofEntries? at made
    split at made
    next fits =>
      split at made
      next size =>
        cases made
        exact ⟨fits, size, rfl, rfl⟩
      next => cases made
    next => cases made
  · rintro ⟨fits, size, rfl, rfl⟩
    exact (if_pos fits).trans (dif_pos size)

/-- A matrix has the shape of rows of numbers, as many entries as the rows, and their numbers in it. -/
structure ShowsRows (rows : List (List Float)) (m : Matrix) : Prop where
  even : EvenRows m.columns rows
  shape_eq : m.shape = ⟨rows.length, firstColumns rows, 1⟩
  size_eq : m.entries.size = rows.length * firstColumns rows
  entry : ∀ row column, m.get? row column 0 = rows[row]?.bind (·[column]?)

/-- The matrix that is made of rows is the one that shows them. -/
theorem ofRows?_eq_some_iff_showsRows {rows : List (List Float)} {m : Matrix} :
    ofRows? rows = some m ↔ ShowsRows rows m := by
  constructor
  · intro made
    obtain ⟨even, rfl⟩ := ofRows?_eq_some_iff.mp made
    exact ⟨even, rfl, (ofEvenRows even).size_entries.trans (Nat.mul_one _), get?_ofEvenRows even⟩
  · rintro ⟨even, shape, -, entry⟩
    have columns : m.columns = firstColumns rows := congrArg Shape.columns shape
    have planes : m.planes = 1 := congrArg Shape.planes shape
    rw [columns] at even
    refine ofRows?_eq_some_iff.mpr ⟨even, ?_⟩
    refine ext_get? (congrArg Shape.rows shape) columns planes fun row column plane => ?_
    cases plane with
    | zero => rw [entry, get?_ofEvenRows]
    | succ plane =>
      have beyond : (ofEvenRows even).planes ≤ plane + 1 := Nat.succ_pos plane
      rw [get?_of_planes_le (by omega), get?_of_planes_le beyond]

/-- A matrix has the shape of rows of pixels, as many entries as the pixels have numbers, and these
numbers in it. -/
structure ShowsPixels (pixels : List (List (List Float))) (m : Matrix) : Prop where
  even : EvenPixels m.columns m.planes pixels
  shape_eq : m.shape = Shape.ofPixels pixels
  size_eq : m.entries.size = pixels.length * firstColumns pixels * firstPlanes pixels
  entry : ∀ row column plane,
    m.get? row column plane = (pixels[row]?.bind (·[column]?)).bind (·[plane]?)

/-- The matrix that is made of pixels is the one that shows them. -/
theorem ofPixels?_eq_some_iff_showsPixels {pixels : List (List (List Float))} {m : Matrix} :
    ofPixels? pixels = some m ↔ ShowsPixels pixels m := by
  constructor
  · intro made
    obtain ⟨even, rfl⟩ := ofPixels?_eq_some_iff.mp made
    exact ⟨even, rfl, (ofEvenPixels even).size_entries, get?_ofEvenPixels even⟩
  · rintro ⟨even, shape, -, entry⟩
    have columns : m.columns = firstColumns pixels := congrArg Shape.columns shape
    have planes : m.planes = firstPlanes pixels := congrArg Shape.planes shape
    rw [columns, planes] at even
    refine ofPixels?_eq_some_iff.mpr ⟨even, ?_⟩
    refine ext_get? (congrArg Shape.rows shape) columns planes fun row column plane => ?_
    rw [entry, get?_ofEvenPixels]

/-! ## Filling -/

/-- Whether pixels are few enough to be counted in words, and so are their numbers. -/
def CountedInWords (pixels : List (List (List Float))) : Prop :=
  pixels.flatten.length < sizeLimit ∧ pixels.flatten.flatten.length < sizeLimit

/-- The buffer for even pixels has a place for each of their numbers and no others. -/
theorem fitsWords_iff_of_even {pixels : List (List (List Float))}
    (even : EvenPixels (firstColumns pixels) (firstPlanes pixels) pixels) :
    (Shape.ofPixels pixels).FitsWords ↔ CountedInWords pixels := by
  have area : pixels.flatten.length = pixels.length * firstColumns pixels :=
    length_flatten_of_even even.1
  have evenNumbers : EvenRows (firstPlanes pixels) pixels.flatten := by
    intro pixel member
    obtain ⟨row, rowMember, inRow⟩ := List.mem_flatten.mp member
    exact even.2 row rowMember pixel inRow
  have size : pixels.flatten.flatten.length = (Shape.ofPixels pixels).size := by
    rw [length_flatten_of_even evenNumbers, area]
    rfl
  rw [CountedInWords, area, size]
  rfl

/-- Filling a buffer with pixels never leaves the buffer, and it makes the matrix of the pixels
whenever there is one and its size is a word. -/
structure FillsSafely (pixels : List (List (List Float))) : Prop where
  never_outside : ∀ place, ofPixelsByFilling pixels ≠ .error (.outside place)
  made_iff : ∀ m, ofPixelsByFilling pixels = .ok m ↔ ofPixels? pixels = some m ∧ CountedInWords pixels
  outcome_eq : ofPixelsByFilling pixels =
    if (Shape.ofPixels pixels).FitsWords then Filled.ofEven (ofPixels? pixels)
    else .error (.overflow .multiplication)

theorem fillsSafely (pixels : List (List (List Float))) : FillsSafely pixels where
  never_outside place := by
    rw [ofPixelsByFilling_eq]
    split
    · cases ofPixels? pixels <;> nofun
    · nofun
  made_iff m := by
    rw [ofPixelsByFilling_eq]
    cases made : ofPixels? pixels with
    | none => split <;> exact iff_of_false nofun nofun
    | some matrix =>
      rw [Option.some_inj, ← fitsWords_iff_of_even (even_of_ofPixels? made)]
      split
      next fits => simp only [Filled.ofEven, Except.ok.injEq, fits, and_true]
      next large => exact iff_of_false nofun fun both => large both.2
  outcome_eq := ofPixelsByFilling_eq pixels

/-! ## Every shape -/

/-- Storage keeps every shape.  Pixels make a matrix exactly when their rows have one length and they
have one length themselves; it is the one with their shape that shows the number of each pixel at its
row, column and plane.  Filling a buffer with them goes the same way and never leaves the buffer; only
uneven pixels can call for more places than a word counts without being that many themselves, and then
nothing is filled.  Rows make a matrix exactly when they have one length, and it shows their numbers.
Entries make one exactly when they are as many as the shape has cells.  Whatever it was made of, a
matrix has an entry exactly for the cells inside its shape, each at a place of its own. -/
theorem stores_every_shape (pixels : List (List (List Float))) (rows : List (List Float))
    (shape : Shape) (entries : Array Float) (m : Matrix) :
    (((∃ made, ofPixels? pixels = some made) ↔
        ∃ columns planes, EvenPixels columns planes pixels) ∧
      (ofPixels? pixels = some m ↔ ShowsPixels pixels m) ∧ FillsSafely pixels) ∧
    (((∃ made, ofRows? rows = some made) ↔ ∃ columns, EvenRows columns rows) ∧
      (ofRows? rows = some m ↔ ShowsRows rows m)) ∧
    (sized? shape.rows shape.columns shape.planes entries = some m ↔
      shape.FitsWords ∧ entries.size = shape.size ∧ m.shape = shape ∧ m.entries = entries) ∧
    m.KeepsCellsApart :=
  ⟨⟨exists_ofPixels?_iff, ofPixels?_eq_some_iff_showsPixels, fillsSafely pixels⟩,
    ⟨exists_ofRows?_iff, ofRows?_eq_some_iff_showsRows⟩, sized?_eq_some_iff, m.keepsCellsApart⟩

/-- Pixels without numbers have a shape too. -/
example : (ofPixels? [[[], []]]).map shape = some ⟨1, 2, 0⟩ := rfl

/-- The channels of a pixel are apart by the pixels of a plane. -/
example : (ofPixels? [[[1, 2, 3], [4, 5, 6]]]).map (·.entries.toList) = some [1, 4, 2, 5, 3, 6] :=
  rfl

end Matrix

end FigureForm
