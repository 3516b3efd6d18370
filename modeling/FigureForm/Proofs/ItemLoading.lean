/-
# Items of a list, loaded

Texts, numbers, rows of numbers and rows of pixels are loaded item after item, and there is a list of
values exactly when every item has one.  Rows make a matrix when they have one length; rows of pixels
are those in which some cell is a list.
-/

import FigureForm.Proofs.MatrixEntries
import FigureForm.Proofs.Outcome
import FigureForm.Record.Loading

namespace FigureForm

namespace Json

/-- Whether a value is a text. -/
def isText : Json → Bool
  | text _ => true
  | _ => false

/-- Whether a value is an object. -/
def isObject : Json → Bool
  | object _ => true
  | _ => false

/-- The number that a value stands for among numbers. -/
def number? : Json → Option Float
  | null => some Record.notANumber
  | boolean value => some (Record.ofBoolean value)
  | number value => some value
  | _ => none

/-- Whether a value may stand among numbers: a null, a truth value or a number. -/
def isNumeric (json : Json) : Bool :=
  json.number?.isSome

/-- A row of so many numbers. -/
def IsRow (columns : Nat) (json : Json) : Prop :=
  ∃ cells, json = .list cells ∧ cells.length = columns ∧ ∀ cell ∈ cells, cell.isNumeric

/-- A row of so many pixels of so many numbers. -/
def IsPixelRow (columns planes : Nat) (json : Json) : Prop :=
  ∃ cells, json = .list cells ∧ cells.length = columns ∧ ∀ cell ∈ cells, IsRow planes cell

theorem isText_iff {json : Json} : json.isText = true ↔ ∃ text, json = .text text := by
  cases json <;> simp [isText]

theorem isObject_iff {json : Json} : json.isObject = true ↔ ∃ members, json = .object members := by
  cases json <;> simp [isObject]

theorem isNull_iff {json : Json} : json.isNull = true ↔ json = .null := by
  cases json <;> simp [isNull]

/-- A number that is not null is nothing else that an item can be. -/
theorem only_isNumeric {json : Json} (numeric : json.isNumeric = true) (notNull : json ≠ .null) :
    ¬ json.isNull = true ∧ ¬ json.isText = true ∧ ¬ json.isObject = true ∧
      ¬ json.isList = true := by
  cases json with
  | null => exact absurd rfl notNull
  | boolean value => simp [isNull, isText, isObject, isList]
  | number value => simp [isNull, isText, isObject, isList]
  | _ => cases numeric

theorem isList_of_isRow {columns : Nat} {json : Json} (row : IsRow columns json) :
    json.isList = true := by
  obtain ⟨cells, rfl, _⟩ := row
  rfl

theorem isList_of_isPixelRow {columns planes : Nat} {json : Json}
    (row : IsPixelRow columns planes json) : json.isList = true := by
  obtain ⟨cells, rfl, _⟩ := row
  rfl

end Json

namespace Record

open Json

/-! ## Items in order -/

section Items

variable {α : Type} {load : Json → Loaded α}

theorem loadItems_eq_ok_iff {index : Nat} {items : List Json} {values : List α} :
    loadItems load index items = .ok values ↔ items.map load = values.map .ok := by
  induction items generalizing index values with
  | nil => cases values <;> simp [loadItems]
  | cons item rest ih =>
    rw [loadItems, bind_eq_ok_iff, List.map_cons]
    constructor
    · rintro ⟨value, first, others⟩
      obtain ⟨others, loaded, same⟩ := bind_eq_ok_iff.mp others
      cases same
      rw [List.map_cons, mapError_eq_ok_iff.mp first, ih.mp loaded]
    · intro each
      cases values with
      | nil => cases each
      | cons value values =>
        obtain ⟨first, others⟩ := List.cons.inj each
        exact ⟨value, mapError_eq_ok_iff.mpr first,
          bind_eq_ok_iff.mpr ⟨values, ih.mpr others, rfl⟩⟩

/-- There are values of a sort for all items exactly when there is one for each. -/
theorem exists_loadItems_all_iff {wanted : α → Prop} {index : Nat} {items : List Json} :
    (∃ values, loadItems load index items = .ok values ∧ ∀ value ∈ values, wanted value) ↔
      ∀ item ∈ items, ∃ value, load item = .ok value ∧ wanted value := by
  simp only [loadItems_eq_ok_iff]
  exact exists_map_eq_map_ok_iff

theorem exists_loadItems_iff {index : Nat} {items : List Json} :
    (∃ values, loadItems load index items = .ok values) ↔
      ∀ item ∈ items, ∃ value, load item = .ok value := by
  have each : (∃ values, loadItems load index items = .ok values ∧ ∀ value ∈ values, True) ↔
      ∀ item ∈ items, ∃ value, load item = .ok value ∧ True :=
    exists_loadItems_all_iff
  simpa only [implies_true, and_true] using each

theorem length_of_loadItems {index : Nat} {items : List Json} {values : List α}
    (loaded : loadItems load index items = .ok values) : values.length = items.length := by
  have lengths := congrArg List.length (loadItems_eq_ok_iff.mp loaded)
  rw [List.length_map, List.length_map] at lengths
  exact lengths.symm

theorem exists_loadList_all_iff {wanted : α → Prop} {count : Nat} {json : Json} :
    (∃ values, loadList load json = .ok values ∧ values.length = count ∧
        ∀ value ∈ values, wanted value) ↔
      ∃ items, json = .list items ∧ items.length = count ∧
        ∀ item ∈ items, ∃ value, load item = .ok value ∧ wanted value := by
  cases json with
  | list items =>
    simp only [loadList]
    constructor
    · rintro ⟨values, loaded, length, allWanted⟩
      exact ⟨items, rfl, length_of_loadItems loaded ▸ length,
        exists_loadItems_all_iff.mp ⟨values, loaded, allWanted⟩⟩
    · rintro ⟨_, same, length, each⟩
      cases same
      obtain ⟨values, loaded, allWanted⟩ := exists_loadItems_all_iff.mpr each
      exact ⟨values, loaded, (length_of_loadItems loaded).trans length, allWanted⟩
  | _ => simp [loadList, reject]

end Items

/-! ## Texts, numbers and matrices -/

theorem loadText_eq_ok_iff {json : Json} {text : String} :
    loadText json = .ok text ↔ json = .text text := by
  cases json <;> simp [loadText, reject]

theorem loadNumber_eq_ok_iff {json : Json} {value : Float} :
    loadNumber json = .ok value ↔ json.number? = some value := by
  cases json <;> simp [loadNumber, number?, reject]

theorem exists_loadText_iff {json : Json} :
    (∃ text, loadText json = .ok text) ↔ json.isText = true := by
  simp only [loadText_eq_ok_iff, isText_iff]

theorem exists_loadNumber_iff {json : Json} :
    (∃ value, loadNumber json = .ok value) ↔ json.isNumeric = true := by
  simp only [loadNumber_eq_ok_iff, isNumeric, Option.isSome_iff_exists]

theorem isRow_iff {columns : Nat} {json : Json} :
    IsRow columns json ↔
      ∃ values, loadList loadNumber json = .ok values ∧ values.length = columns := by
  have rows : (∃ values, loadList loadNumber json = .ok values ∧ values.length = columns ∧
        ∀ value ∈ values, True) ↔
      ∃ cells, json = .list cells ∧ cells.length = columns ∧
        ∀ cell ∈ cells, ∃ value, loadNumber cell = .ok value ∧ True :=
    exists_loadList_all_iff
  simp only [implies_true, and_true, exists_loadNumber_iff] at rows
  exact rows.symm

theorem isPixelRow_iff {columns planes : Nat} {json : Json} :
    IsPixelRow columns planes json ↔
      ∃ pixels, loadList (loadList loadNumber) json = .ok pixels ∧ pixels.length = columns ∧
        ∀ pixel ∈ pixels, pixel.length = planes := by
  rw [exists_loadList_all_iff]
  simp only [← isRow_iff]
  rfl

/-- Rows of pixels are the rows with a list in some cell. -/
theorem hasPixels_iff {items : List Json} :
    hasPixels items = true ↔
      ∃ cells, .list cells ∈ items ∧ ∃ cell ∈ cells, cell.isList = true := by
  unfold hasPixels
  rw [List.any_eq_true]
  constructor
  · rintro ⟨row, among, found⟩
    cases row with
    | list cells => exact ⟨cells, among, List.any_eq_true.mp found⟩
    | _ => cases found
  · rintro ⟨cells, among, found⟩
    exact ⟨.list cells, among, List.any_eq_true.mpr found⟩

/-- Numbers are no lists, so rows of numbers are no rows of pixels. -/
theorem hasPixels_of_rows {columns : Nat} {items : List Json}
    (each : ∀ item ∈ items, IsRow columns item) : hasPixels items = false := by
  apply Bool.eq_false_iff.mpr
  intro pixels
  obtain ⟨cells, among, cell, inRow, isList⟩ := hasPixels_iff.mp pixels
  obtain ⟨_, same, _, numeric⟩ := each _ among
  cases same
  have numeric := numeric cell inRow
  cases cell with
  | list cells => cases numeric
  | _ => cases isList

/-- Rows of pixels with a pixel are found to be such. -/
theorem hasPixels_of_pixelRows {columns planes : Nat} {items : List Json} (some : 0 < columns)
    (each : ∀ item ∈ items, IsPixelRow columns planes item) {item : Json} (among : item ∈ items) :
    hasPixels items = true := by
  obtain ⟨cells, rfl, length, rows⟩ := each item among
  rw [← length] at some
  have first : cells[0] ∈ cells := List.getElem_mem some
  exact hasPixels_iff.mpr ⟨cells, among, cells[0], first, isList_of_isRow (rows _ first)⟩

theorem even_eq_ok_iff {made : Option Matrix} {matrix : Matrix} :
    even made = .ok matrix ↔ made = some matrix := by
  cases made <;> simp [even, reject]

theorem loadMatrix_of_rows {items : List Json} (noPixels : hasPixels items = false)
    {matrix : Matrix} :
    loadMatrix items = .ok matrix ↔
      ∃ rows, loadItems (loadList loadNumber) 0 items = .ok rows ∧
        Matrix.ofRows? rows = some matrix := by
  rw [loadMatrix, noPixels, if_neg Bool.false_ne_true, bind_eq_ok_iff]
  simp only [even_eq_ok_iff]

theorem loadMatrix_of_pixels {items : List Json} (pixels : hasPixels items = true)
    {matrix : Matrix} :
    loadMatrix items = .ok matrix ↔
      ∃ rows, loadItems (loadList (loadList loadNumber)) 0 items = .ok rows ∧
        Matrix.ofPixels? rows = some matrix := by
  rw [loadMatrix, pixels, if_pos rfl, bind_eq_ok_iff]
  simp only [even_eq_ok_iff]

theorem exists_loadMatrix_of_rows {items : List Json} (noPixels : hasPixels items = false) :
    (∃ matrix, loadMatrix items = .ok matrix) ↔ ∃ columns, ∀ item ∈ items, IsRow columns item := by
  constructor
  · rintro ⟨matrix, loaded⟩
    obtain ⟨rows, loaded, made⟩ := (loadMatrix_of_rows noPixels).mp loaded
    obtain ⟨columns, even⟩ := Matrix.exists_ofRows?_iff.mp ⟨matrix, made⟩
    exact ⟨columns, fun item among =>
      isRow_iff.mpr (exists_loadItems_all_iff.mp ⟨rows, loaded, even⟩ item among)⟩
  · rintro ⟨columns, each⟩
    obtain ⟨rows, loaded, even⟩ := exists_loadItems_all_iff.mpr fun item among =>
      isRow_iff.mp (each item among)
    obtain ⟨matrix, made⟩ := Matrix.exists_ofRows?_iff.mpr ⟨columns, even⟩
    exact ⟨matrix, (loadMatrix_of_rows noPixels).mpr ⟨rows, loaded, made⟩⟩

theorem exists_loadMatrix_of_pixels {items : List Json} (pixels : hasPixels items = true) :
    (∃ matrix, loadMatrix items = .ok matrix) ↔
      ∃ columns planes, ∀ item ∈ items, IsPixelRow columns planes item := by
  constructor
  · rintro ⟨matrix, loaded⟩
    obtain ⟨rows, loaded, made⟩ := (loadMatrix_of_pixels pixels).mp loaded
    obtain ⟨columns, planes, evenRows, evenPixels⟩ :=
      Matrix.exists_ofPixels?_iff.mp ⟨matrix, made⟩
    have even : ∀ row ∈ rows, row.length = columns ∧ ∀ pixel ∈ row, pixel.length = planes :=
      fun row member => ⟨evenRows row member, evenPixels row member⟩
    exact ⟨columns, planes, fun item among =>
      isPixelRow_iff.mpr (exists_loadItems_all_iff.mp ⟨rows, loaded, even⟩ item among)⟩
  · rintro ⟨columns, planes, each⟩
    obtain ⟨rows, loaded, even⟩ := exists_loadItems_all_iff.mpr fun item among =>
      isPixelRow_iff.mp (each item among)
    obtain ⟨matrix, made⟩ := Matrix.exists_ofPixels?_iff.mpr
      ⟨columns, planes, fun row member => (even row member).1,
        fun row member => (even row member).2⟩
    exact ⟨matrix, (loadMatrix_of_pixels pixels).mpr ⟨rows, loaded, made⟩⟩

/-- A matrix comes of rows of one length, of numbers or else of pixels of one length. -/
theorem exists_loadMatrix_iff {items : List Json} :
    (∃ matrix, loadMatrix items = .ok matrix) ↔
      (∃ columns, ∀ item ∈ items, IsRow columns item) ∨
        ∃ columns planes, 0 < columns ∧ ∀ item ∈ items, IsPixelRow columns planes item := by
  cases pixels : hasPixels items with
  | false =>
    rw [exists_loadMatrix_of_rows pixels]
    constructor
    · exact .inl
    · rintro (rows | ⟨columns, planes, some, each⟩)
      · exact rows
      · cases items with
        | nil => exact ⟨0, fun _ none => nomatch none⟩
        | cons item rest =>
          rw [hasPixels_of_pixelRows some each List.mem_cons_self] at pixels
          cases pixels
  | true =>
    rw [exists_loadMatrix_of_pixels pixels]
    constructor
    · rintro ⟨columns, planes, each⟩
      obtain ⟨cells, among, cell, inRow, _⟩ := hasPixels_iff.mp pixels
      obtain ⟨_, same, length, _⟩ := each _ among
      cases same
      exact .inr ⟨columns, planes, length ▸ List.length_pos_of_mem inRow, each⟩
    · rintro (⟨columns, each⟩ | ⟨columns, planes, _, each⟩)
      · rw [hasPixels_of_rows each] at pixels
        cases pixels
      · exact ⟨columns, planes, each⟩

end Record

end FigureForm
