/-
# What fields hold

`Represents` is the table of what a field holds for each shape of JSON value: the exact value, except
that of a record only the number of elements is said, which are read one by one.  Whatever the loader
makes of a value is what the table gives for it (`represents_of_load`), and the table gives no second
value (`Represents.unique`).
-/

import FigureForm.Proofs.DumpGrammar

namespace FigureForm

namespace Json

/-- The item at an index of a list. -/
def item? : Json → Nat → Option Json
  | list items, index => items[index]?
  | _, _ => none

/-- What a field holds for a JSON value. -/
inductive Represents : Json → FieldValue → Prop
  | null : Represents .null .absent
  | empty : Represents (.list []) .absent
  | boolean (value : Bool) : Represents (.boolean value) (.scalar (Record.ofBoolean value))
  | number (value : Float) : Represents (.number value) (.scalar value)
  | text (value : String) : Represents (.text value) (.text value)
  | texts {items : List Json} {texts : List String} (some : items ≠ [])
      (each : items = texts.map .text) : Represents (.list items) (.textList texts)
  | numbers {items : List Json} {values : List Float} (some : items ≠ [])
      (each : items.map number? = values.map .some) : Represents (.list items) (.vector values)
  | rows {items : List Json} {matrix : Matrix} (some : items ≠ [])
      (rows : matrix.rows = items.length) (planes : matrix.planes = 1)
      (even : ∀ item ∈ items, IsRow matrix.columns item)
      (entries : ∀ row column, matrix.get? row column 0 =
        (items[row]?.bind (·.item? column)).bind number?) :
      Represents (.list items) (.matrix matrix)
  | pixels {items : List Json} {matrix : Matrix} (some : items ≠ [])
      (rows : matrix.rows = items.length) (columns : 0 < matrix.columns)
      (even : ∀ item ∈ items, IsPixelRow matrix.columns matrix.planes item)
      (entries : ∀ row column plane, matrix.get? row column plane =
        ((items[row]?.bind (·.item? column)).bind (·.item? plane)).bind number?) :
      Represents (.list items) (.matrix matrix)
  | object {members : List (String × Json)} {element : Element} :
      Represents (.object members) (.record [element])
  | objects {items : List Json} {elements : Record} (some : items ≠ [])
      (areObjects : ∀ item ∈ items, item.isObject) (length : elements.length = items.length) :
      Represents (.list items) (.record elements)

/-! ## No second value -/

/-- What items of a list can be; a null is a number among numbers. -/
inductive ItemSort
  | text
  | number
  | list
  | object

/-- The sort of an item. -/
def itemSort : Json → ItemSort
  | text _ => .text
  | list _ => .list
  | object _ => .object
  | _ => .number

theorem itemSort_of_isNumeric {json : Json} (numeric : json.isNumeric = true) :
    json.itemSort = .number := by
  cases json with
  | null => rfl
  | boolean value => rfl
  | number value => rfl
  | _ => cases numeric

theorem itemSort_of_isList {json : Json} (isList : json.isList = true) : json.itemSort = .list := by
  cases json with
  | list items => rfl
  | _ => cases isList

/-- The sort of the items that a value comes of. -/
def sortOf? : FieldValue → Option ItemSort
  | .textList _ => some .text
  | .vector _ => some .number
  | .matrix _ => some .list
  | .record _ => some .object
  | _ => none

/-- The value for a list tells the sort of its items. -/
theorem Represents.itemSort {items : List Json} {value : FieldValue}
    (represents : Represents (.list items) value) {item : Json} (among : item ∈ items) :
    sortOf? value = some item.itemSort := by
  cases represents with
  | empty => cases among
  | @texts _ texts _ each =>
    rw [each] at among
    obtain ⟨text, _, rfl⟩ := List.mem_map.mp among
    rfl
  | @numbers _ values _ each =>
    have number : item.number? ∈ items.map number? := List.mem_map_of_mem among
    rw [each] at number
    obtain ⟨value, _, isNumber⟩ := List.mem_map.mp number
    have numeric : item.isNumeric = true := by
      rw [isNumeric, ← isNumber]
      rfl
    rw [itemSort_of_isNumeric numeric]
    rfl
  | rows _ _ _ even _ =>
    rw [itemSort_of_isList (isList_of_isRow (even item among))]
    rfl
  | pixels _ _ _ even _ =>
    rw [itemSort_of_isList (isList_of_isPixelRow (even item among))]
    rfl
  | objects _ areObjects _ =>
    obtain ⟨members, rfl⟩ := isObject_iff.mp (areObjects item among)
    rfl

theorem length_of_rows {columns others : Nat} {json : Json} (row : IsRow columns json)
    (otherRow : IsRow others json) : columns = others := by
  obtain ⟨cells, rfl, length, _⟩ := row
  obtain ⟨_, same, otherLength, _⟩ := otherRow
  cases same
  exact length.symm.trans otherLength

/-- A row with a cell is one of numbers or one of pixels. -/
theorem not_isRow_of_isPixelRow {columns planes others : Nat} {json : Json} (some : 0 < columns)
    (pixelRow : IsPixelRow columns planes json) : ¬ IsRow others json := by
  rintro ⟨cells, rfl, _, numeric⟩
  obtain ⟨_, same, length, rows⟩ := pixelRow
  cases same
  rw [← length] at some
  have first : cells[0] ∈ cells := List.getElem_mem some
  have isList := itemSort_of_isList (isList_of_isRow (rows _ first))
  rw [itemSort_of_isNumeric (numeric _ first)] at isList
  cases isList

theorem length_of_pixelRows {columns planes otherColumns otherPlanes : Nat} {json : Json}
    (some : 0 < columns) (row : IsPixelRow columns planes json)
    (otherRow : IsPixelRow otherColumns otherPlanes json) :
    columns = otherColumns ∧ planes = otherPlanes := by
  obtain ⟨cells, rfl, length, rows⟩ := row
  obtain ⟨_, same, otherLength, otherRows⟩ := otherRow
  cases same
  refine ⟨length.symm.trans otherLength, ?_⟩
  rw [← length] at some
  have first : cells[0] ∈ cells := List.getElem_mem some
  exact length_of_rows (rows _ first) (otherRows _ first)

/-- The table gives one value, but for what the elements of records hold. -/
theorem Represents.unique {json : Json} {first second : FieldValue}
    (isFirst : Represents json first) (isSecond : Represents json second) :
    first = second ∨ ∃ elements others : Record,
      first = .record elements ∧ second = .record others ∧ elements.length = others.length := by
  have sameSort {items : List Json} (some : items ≠ [])
      (isFirst : Represents (.list items) first) (isSecond : Represents (.list items) second) :
      sortOf? first = sortOf? second := by
    obtain ⟨item, among⟩ := List.exists_mem_of_ne_nil items some
    rw [isFirst.itemSort among, isSecond.itemSort among]
  cases isFirst with
  | @texts items texts some each =>
    have sorts := sameSort some (.texts some each) isSecond
    cases isSecond with
    | @texts _ others _ otherEach =>
      have same : texts = others := by
        have same := each.symm.trans otherEach
        exact (List.map_inj_right fun _ _ => Json.text.inj).mp same
      exact .inl (congrArg _ same)
    | _ => cases sorts
  | @numbers items values some each =>
    have sorts := sameSort some (.numbers some each) isSecond
    cases isSecond with
    | @numbers _ others _ otherEach =>
      have same : values = others := by
        have same := each.symm.trans otherEach
        exact (List.map_inj_right fun _ _ => Option.some.inj).mp same
      exact .inl (congrArg _ same)
    | _ => cases sorts
  | @rows items matrix some rows planes even entries =>
    have sorts := sameSort some (.rows some rows planes even entries) isSecond
    obtain ⟨item, among⟩ := List.exists_mem_of_ne_nil items some
    cases isSecond with
    | @rows _ other _ otherRows otherPlanes otherEven otherEntries =>
      have same : matrix = other := by
        refine Matrix.ext_get? (rows.trans otherRows.symm)
          (length_of_rows (even item among) (otherEven item among))
          (planes.trans otherPlanes.symm) fun row column plane => ?_
        cases plane with
        | zero => exact (entries row column).trans (otherEntries row column).symm
        | succ plane =>
          rw [Matrix.get?_of_planes_le (by omega), Matrix.get?_of_planes_le (by omega)]
      exact .inl (congrArg _ same)
    | pixels _ _ columns otherEven _ =>
      exact absurd (even item among) (not_isRow_of_isPixelRow columns (otherEven item among))
    | _ => cases sorts
  | @pixels items matrix some rows columns even entries =>
    have sorts := sameSort some (.pixels some rows columns even entries) isSecond
    obtain ⟨item, among⟩ := List.exists_mem_of_ne_nil items some
    cases isSecond with
    | rows _ _ _ otherEven _ =>
      exact absurd (otherEven item among) (not_isRow_of_isPixelRow columns (even item among))
    | @pixels _ other _ otherRows otherColumns otherEven otherEntries =>
      obtain ⟨sameColumns, samePlanes⟩ :=
        length_of_pixelRows columns (even item among) (otherEven item among)
      have same : matrix = other :=
        Matrix.ext_get? (rows.trans otherRows.symm) sameColumns samePlanes
          fun row column plane => (entries row column plane).trans
            (otherEntries row column plane).symm
      exact .inl (congrArg _ same)
    | _ => cases sorts
  | @object members element =>
    cases isSecond with
    | @object _ other => exact .inr ⟨[element], [other], rfl, rfl, rfl⟩
  | @objects items elements some areObjects length =>
    have sorts := sameSort some (.objects some areObjects length) isSecond
    cases isSecond with
    | @objects _ others _ _ otherLength =>
      exact .inr ⟨elements, others, rfl, rfl, length.trans otherLength.symm⟩
    | _ => cases sorts
  | empty =>
    cases isSecond with
    | empty => exact .inl rfl
    | texts some _ => exact absurd rfl some
    | numbers some _ => exact absurd rfl some
    | rows some _ _ _ _ => exact absurd rfl some
    | pixels some _ _ _ _ => exact absurd rfl some
    | objects some _ _ => exact absurd rfl some
  | _ =>
    cases isSecond
    exact .inl rfl

end Json

namespace Record

open Json

section Items

variable {α β : Type} {load : Json → Loaded α}

/-- What can be told of a value from the item that it was loaded from can be told of all values in a
list. -/
theorem map_eq_of_loadItems {ofItem : Json → β} {ofValue : α → β}
    (agree : ∀ item value, load item = .ok value → ofItem item = ofValue value) {index : Nat}
    {items : List Json} {values : List α} (loaded : loadItems load index items = .ok values) :
    items.map ofItem = values.map ofValue := by
  have each := loadItems_eq_ok_iff.mp loaded
  clear loaded
  induction items generalizing values with
  | nil =>
    cases values with
    | nil => rfl
    | cons value values => cases each
  | cons item rest ih =>
    cases values with
    | nil => cases each
    | cons value values =>
      obtain ⟨first, others⟩ := List.cons.inj each
      rw [List.map_cons, List.map_cons, agree item value first, ih others]

/-- The same for what may be found in a value. -/
theorem bind_getElem?_of_loadItems {ofItem : Json → Option β} {ofValue : α → Option β}
    (agree : ∀ item value, load item = .ok value → ofItem item = ofValue value) {index : Nat}
    {items : List Json} {values : List α} (loaded : loadItems load index items = .ok values)
    (place : Nat) : items[place]?.bind ofItem = values[place]?.bind ofValue := by
  have same : items[place]?.map ofItem = values[place]?.map ofValue := by
    rw [← List.getElem?_map, ← List.getElem?_map, map_eq_of_loadItems agree loaded]
  calc items[place]?.bind ofItem = (items[place]?.map ofItem).bind id := by
        rw [Option.bind_map]
        rfl
    _ = (values[place]?.map ofValue).bind id := by rw [same]
    _ = values[place]?.bind ofValue := by
        rw [Option.bind_map]
        rfl

theorem bind_item?_of_loadList {ofItem : Json → Option β} {ofValue : α → Option β}
    (agree : ∀ item value, load item = .ok value → ofItem item = ofValue value) {json : Json}
    {values : List α} (loaded : loadList load json = .ok values) (place : Nat) :
    (json.item? place).bind ofItem = values[place]?.bind ofValue := by
  cases json with
  | list items => exact bind_getElem?_of_loadItems agree loaded place
  | _ => cases loaded

end Items

theorem number?_of_loadNumber (json : Json) (value : Float) (loaded : loadNumber json = .ok value) :
    json.number? = some value :=
  loadNumber_eq_ok_iff.mp loaded

/-- A cell of a row of numbers. -/
theorem cell_of_loadRow {json : Json} {values : List Float}
    (loaded : loadList loadNumber json = .ok values) (column : Nat) :
    (json.item? column).bind number? = values[column]? := by
  rw [bind_item?_of_loadList number?_of_loadNumber loaded, Option.bind_fun_some]

/-- A number of a pixel in a row of pixels. -/
theorem number_of_loadPixelRow {json : Json} {pixels : List (List Float)}
    (loaded : loadList (loadList loadNumber) json = .ok pixels) (column plane : Nat) :
    ((json.item? column).bind (·.item? plane)).bind number? =
      pixels[column]?.bind (·[plane]?) := by
  rw [Option.bind_assoc]
  exact bind_item?_of_loadList (fun pixel _ read => cell_of_loadRow read plane) loaded column

/-- A matrix of rows of numbers represents them. -/
theorem represents_of_rows {items : List Json} (some : items ≠ []) {rows : List (List Float)}
    (loaded : loadItems (loadList loadNumber) 0 items = .ok rows) {matrix : Matrix}
    (made : Matrix.ofRows? rows = .some matrix) : Represents (.list items) (.matrix matrix) := by
  obtain ⟨even, rfl⟩ := Matrix.ofRows?_eq_some_iff.mp made
  refine .rows some (length_of_loadItems loaded) rfl ?_ fun row column => ?_
  · intro item among
    exact isRow_iff.mpr (exists_loadItems_all_iff.mp ⟨rows, loaded, even⟩ item among)
  · rw [Matrix.get?_ofEvenRows, Option.bind_assoc]
    exact (bind_getElem?_of_loadItems (fun item _ read => cell_of_loadRow read column)
      loaded row).symm

/-- A matrix of rows of pixels represents them. -/
theorem represents_of_pixels {items : List Json} (hasPixels : hasPixels items = true)
    {pixels : List (List (List Float))}
    (loaded : loadItems (loadList (loadList loadNumber)) 0 items = .ok pixels) {matrix : Matrix}
    (made : Matrix.ofPixels? pixels = some matrix) : Represents (.list items) (.matrix matrix) := by
  obtain ⟨even, rfl⟩ := Matrix.ofPixels?_eq_some_iff.mp made
  have rows := fun item among => isPixelRow_iff.mpr (exists_loadItems_all_iff.mp
    ⟨pixels, loaded, fun row member => ⟨even.1 row member, even.2 row member⟩⟩ item among)
  obtain ⟨cells, among, cell, inRow, _⟩ := hasPixels_iff.mp hasPixels
  obtain ⟨_, same, length, _⟩ := rows _ among
  cases same
  have columns := List.length_pos_of_mem inRow
  rw [length] at columns
  refine .pixels (List.ne_nil_of_mem among) (length_of_loadItems loaded) columns rows
    fun row column plane => ?_
  rw [Matrix.get?_ofEvenPixels, Option.bind_assoc, Option.bind_assoc, Option.bind_assoc]
  have look := bind_getElem?_of_loadItems
    (fun item _ read => number_of_loadPixelRow read column plane) loaded row
  simpa only [Option.bind_assoc] using look.symm

/-- What is loaded from a value is what the table gives for it. -/
theorem represents_of_load {json : Json} {value : FieldValue} (loaded : load json = .ok value) :
    Represents json value := by
  cases json with
  | object members =>
    obtain ⟨element, _, rfl⟩ := load_object_eq_ok_iff.mp loaded
    exact .object
  | list items =>
    cases listReading items with
    | nulls each outcome =>
      rw [outcome] at loaded
      split at loaded
      next empty =>
        cases loaded
        rw [List.isEmpty_iff.mp empty]
        exact .empty
      next some =>
        cases loaded
        refine .numbers (by simpa using some) ?_
        rw [List.map_map]
        apply List.map_congr_left
        intro item among
        rw [isNull_iff.mp (each item among)]
        rfl
    | texts text first outcome =>
      obtain ⟨texts, read, same⟩ := bind_eq_ok_iff.mp (outcome ▸ loaded)
      cases same
      have each : items.map id = texts.map .text :=
        map_eq_of_loadItems (fun _ _ => loadText_eq_ok_iff.mp) read
      rw [List.map_id] at each
      exact .texts (List.ne_nil_of_mem first) each
    | numbers number first numeric notNull outcome =>
      obtain ⟨values, read, same⟩ := bind_eq_ok_iff.mp (outcome ▸ loaded)
      cases same
      exact .numbers (List.ne_nil_of_mem first) (map_eq_of_loadItems number?_of_loadNumber read)
    | objects members first outcome =>
      obtain ⟨elements, read, same⟩ := bind_eq_ok_iff.mp (outcome ▸ loaded)
      cases same
      exact .objects (List.ne_nil_of_mem first)
        (fun item among =>
          (exists_loadElement_iff.mp (exists_loadItems_iff.mp ⟨elements, read⟩ item among)).1)
        (length_of_loadItems read)
    | lists cells first outcome =>
      obtain ⟨matrix, read, same⟩ := bind_eq_ok_iff.mp (outcome ▸ loaded)
      cases same
      cases pixels : hasPixels items with
      | false =>
        obtain ⟨rows, read, made⟩ := (loadMatrix_of_rows pixels).mp read
        exact represents_of_rows (List.ne_nil_of_mem first) read made
      | true =>
        obtain ⟨rows, read, made⟩ := (loadMatrix_of_pixels pixels).mp read
        exact represents_of_pixels pixels read made
  | null =>
    rw [load] at loaded
    cases loaded
    exact .null
  | boolean truth =>
    rw [load] at loaded
    cases loaded
    exact .boolean truth
  | number number =>
    rw [load] at loaded
    cases loaded
    exact .number number
  | text text =>
    rw [load] at loaded
    cases loaded
    exact .text text

end Record

end FigureForm
