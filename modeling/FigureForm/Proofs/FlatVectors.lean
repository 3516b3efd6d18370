/-
# Flat vectors

Positions and colors are read as flat lists of numbers, from a vector as well as from a matrix of one
row or one column.  `Dump.flattened` has the vector in place of such a matrix wherever a field has
one of the three names, at any depth and in any variable, and it has the same form.
-/

import FigureForm.Proofs.Adjustment
import FigureForm.Proofs.Matching

namespace FigureForm

/-- The fields that are read as flat lists of numbers. -/
def vectorFields : List String :=
  ["Position", "BackgroundColor", "Color"]

/-- A matrix of one row or one column as a vector; any other value as it is. -/
def FieldValue.flat : FieldValue → FieldValue
  | .matrix value =>
    match value.toVector? with
    | some values => .vector values
    | none => .matrix value
  | value => value

namespace Element

mutual

/-- An element whose positions and colors are flat, its own and those of all elements inside it. -/
def flattened : Element → Element
  | .ofFields fields => .ofFields (fieldsFlattened fields)

/-- Fields with flat positions and colors. -/
def fieldsFlattened : List (String × FieldValue) → List (String × FieldValue)
  | [] => []
  | (name, value) :: rest => (name, valueFlattened name value) :: fieldsFlattened rest

/-- The value of a field with flat positions and colors. -/
def valueFlattened (name : String) : FieldValue → FieldValue
  | .record elements => .record (allFlattened elements)
  | value => if name ∈ vectorFields then value.flat else value

/-- Elements with flat positions and colors. -/
def allFlattened : List Element → List Element
  | [] => []
  | element :: rest => flattened element :: allFlattened rest

end

end Element

/-- The dump with flat positions and colors. -/
def Dump.flattened (dump : Dump) : Dump where
  records := dump.records.map fun (name, record) => (name, record.map Element.flattened)

namespace FieldValue

variable (value : FieldValue)

theorem toVector?_flat : value.flat.toVector? = value.toVector? := by
  cases value with
  | matrix matrix =>
    rw [flat, toVector?]
    cases entries : matrix.toVector? with
    | none => exact entries
    | some values => rfl
  | _ => rfl

theorem record?_flat : value.flat.record? = value.record? := by
  cases value with
  | matrix matrix =>
    rw [flat]
    cases matrix.toVector? <;> rfl
  | _ => rfl

theorem text?_flat : value.flat.text? = value.text? := by
  cases value with
  | matrix matrix =>
    rw [flat]
    cases matrix.toVector? <;> rfl
  | _ => rfl

end FieldValue

namespace Element

theorem allFlattened_eq (elements : Record) : allFlattened elements = elements.map flattened := by
  induction elements with
  | nil => rw [allFlattened]; rfl
  | cons element rest ih => rw [allFlattened, ih, List.map_cons]

theorem flattened_eq (element : Element) : element.flattened = element.mapFields valueFlattened := by
  obtain ⟨fields⟩ := element
  rw [flattened]
  apply congrArg ofFields
  induction fields with
  | nil => rw [fieldsFlattened]; rfl
  | cons first rest ih =>
    obtain ⟨name, value⟩ := first
    rw [fieldsFlattened, ih]
    rfl

theorem flattened_set (element : Element) (name : String) (value : FieldValue) :
    (element.set name value).flattened = element.flattened.set name (valueFlattened name value) := by
  rw [flattened_eq, mapFields_set, flattened_eq]

/-! ## What is read of flat values -/

theorem valueFlattened_record (name : String) (elements : Record) :
    valueFlattened name (.record elements) = .record (elements.map flattened) := by
  rw [valueFlattened, allFlattened_eq]

theorem valueFlattened_of_not_record {name : String} {value : FieldValue}
    (noRecord : value.record? = none) :
    valueFlattened name value = if name ∈ vectorFields then value.flat else value := by
  cases value with
  | record elements => cases noRecord
  | _ =>
    rw [valueFlattened]
    intro elements impossible
    cases impossible

theorem record?_valueFlattened (name : String) (value : FieldValue) :
    (valueFlattened name value).record? = value.record?.map (List.map flattened) := by
  cases found : value.record? with
  | none =>
    rw [valueFlattened_of_not_record found]
    split
    · rw [FieldValue.record?_flat, found, Option.map_none]
    · rw [found, Option.map_none]
  | some elements =>
    cases value with
    | record elements =>
      cases found
      rw [valueFlattened_record]
      rfl
    | _ => cases found

/-- Whatever tells neither a value from its flat form nor a record from another reads the same. -/
theorem read_valueFlattened {β : Type} {read : FieldValue → β}
    (flat : ∀ value, read value.flat = read value)
    (records : ∀ elements others, read (.record elements) = read (.record others)) (name : String)
    (value : FieldValue) : read (valueFlattened name value) = read value := by
  cases value with
  | record elements =>
    rw [valueFlattened_record]
    exact records _ _
  | _ =>
    rw [valueFlattened_of_not_record rfl]
    split
    · rw [flat]
    · rfl

theorem text?_valueFlattened (name : String) (value : FieldValue) :
    (valueFlattened name value).text? = value.text? :=
  read_valueFlattened FieldValue.text?_flat (fun _ _ => rfl) name value

theorem toVector?_valueFlattened (name : String) (value : FieldValue) :
    (valueFlattened name value).toVector? = value.toVector? :=
  read_valueFlattened FieldValue.toVector?_flat (fun _ _ => rfl) name value

section

variable (element : Element)

theorem field_flattened (name : String) :
    element.flattened.field name = valueFlattened name (element.field name) := by
  have nothing : valueFlattened name .absent = .absent := by
    rw [valueFlattened_of_not_record rfl]
    exact ite_self _
  rw [flattened_eq, field_mapFields nothing]

theorem text?_flattened (name : String) : element.flattened.text? name = element.text? name := by
  rw [text?, field_flattened, text?_valueFlattened, text?]

theorem textOrEmpty_flattened (name : String) :
    element.flattened.textOrEmpty name = element.textOrEmpty name := by
  rw [textOrEmpty, text?_flattened, textOrEmpty]

theorem record?_flattened (name : String) :
    element.flattened.record? name = (element.record? name).map (List.map flattened) := by
  rw [record?, field_flattened, record?_valueFlattened, record?]

theorem children_flattened : element.flattened.children = element.children.map flattened := by
  rw [children, record?_flattened, children]
  cases element.record? "children" <;> rfl

theorem properties?_flattened :
    Figure.properties? element.flattened = (Figure.properties? element).map flattened := by
  rw [Figure.properties?, record?_flattened, Figure.properties?, Option.map_map, Option.map_map]
  congr 1
  funext elements
  cases elements <;> rfl

end

end Element

namespace Figure

variable (properties : Element)

theorem contentOf_flattened :
    contentOf (properties.flattened.field "String") = contentOf (properties.field "String") := by
  have flat (value : FieldValue) : contentOf value.flat = contentOf value := by
    cases value with
    | matrix matrix =>
      rw [FieldValue.flat]
      cases matrix.toVector? <;> rfl
    | _ => rfl
  rw [Element.field_flattened]
  exact Element.read_valueFlattened flat (fun _ _ => rfl) _ _

/-- The pixels of icons are not among the fields that are flat. -/
theorem icon_flattened :
    Icon.ofField (properties.flattened.field "CData") = Icon.ofField (properties.field "CData") := by
  rw [Element.field_flattened]
  cases properties.field "CData" with
  | record elements => rw [Element.valueFlattened_record]; rfl
  | _ => rw [Element.valueFlattened_of_not_record rfl, if_neg (by decide)]

theorem positionOf?_flattened : positionOf? properties.flattened = positionOf? properties := by
  rw [positionOf?, Element.field_flattened, Element.toVector?_valueFlattened, positionOf?]

theorem colorOf?_flattened (name : String) :
    colorOf? properties.flattened name = colorOf? properties name := by
  rw [colorOf?, Element.field_flattened, Element.toVector?_valueFlattened, colorOf?]

/-! ## The form of a flattened dump -/

variable (metrics : FontMetrics)

theorem placementsMatch_flattened :
    PlacementsMatch (fun _ => true) metrics metrics properties properties.flattened where
  position := (positionOf?_flattened properties).symm
  scale := by rw [scaleOf, scaleOf, properties.textOrEmpty_flattened]
  remarks place := by
    rw [List.filter_true, unitOf_eq, properties.textOrEmpty_flattened, unitOf_eq]

theorem matchingChange_flattened :
    MatchingChange (fun _ => true) metrics Element.flattened Element.flattened where
  empty := rfl
  type component := component.text?_flattened "type"
  properties := Element.properties?_flattened
  children := Element.children_flattened
  ofTool properties :=
    { name := (properties.textOrEmpty_flattened "Tag").symm
      tooltip := (properties.textOrEmpty_flattened "TooltipString").symm
      icon := (icon_flattened properties).symm }
  ofComponent properties :=
    { placementsMatch_flattened properties metrics with
      tag := (properties.textOrEmpty_flattened "Tag").symm
      style := (properties.textOrEmpty_flattened "Style").symm
      title := (properties.textOrEmpty_flattened "Title").symm
      content := (contentOf_flattened properties).symm
      color := (colorOf?_flattened properties "BackgroundColor").symm }
  ofWindow properties :=
    { placementsMatch_flattened properties metrics with
      title := (properties.textOrEmpty_flattened "Name").symm
      tag := (properties.textOrEmpty_flattened "Tag").symm
      menuBar := (properties.text?_flattened "MenuBar").symm
      color := (colorOf?_flattened properties "Color").symm }

theorem root?_flattened (dump : Dump) (opening : String) :
    dump.flattened.root? opening =
      (dump.root? opening).map fun root => (root.1, root.2.map Element.flattened) := by
  rw [Dump.root?, Dump.flattened, ← List.map_reverse, List.find?_map]
  rfl

/-- Flat positions and colors are those that were read anyway: the form stays the same. -/
theorem formOf_flattened (options : FormOptions) (dump : Dump) :
    formOf options dump.flattened = formOf options dump := by
  rw [formOf_of_matchingChange (fun _ _ => rfl) (matchingChange_flattened options.metrics)
    (root?_flattened dump options.opening)]
  cases formOf options dump with
  | error fault => rfl
  | ok noted => exact congrArg Except.ok (Noted.keeping_of_all fun _ _ => rfl)

end Figure

end FigureForm
