/-
# Records

A record is an array of elements, and an element maps field names to values: numbers, vectors,
matrices, texts, lists of texts and further records.  The fields of an element are kept in the order
of their names, so that two elements with the same fields are the same.  Looking up what is not
there gives the absent value.
-/

import FigureForm.Dictionary
import FigureForm.Record.Matrix

namespace FigureForm

mutual

/-- What a field holds. -/
inductive FieldValue
  | absent
  | scalar (value : Float)
  | vector (values : List Float)
  | matrix (value : Matrix)
  | text (value : String)
  | textList (values : List String)
  | record (elements : List Element)

/-- Fields with their values. -/
inductive Element
  | ofFields (fields : List (String × FieldValue))

end

/-- An array of elements. -/
abbrev Record := List Element

namespace FieldValue

instance : Inhabited FieldValue :=
  ⟨absent⟩

/-- What a value is called in reports. -/
def kindName : FieldValue → String
  | absent => "absent"
  | scalar _ => "scalar"
  | vector _ => "vector"
  | matrix _ => "matrix"
  | text _ => "string"
  | textList _ => "string list"
  | record _ => "record"

/-- Whether there is no value. -/
def isAbsent : FieldValue → Bool
  | absent => true
  | _ => false

/-- The value as a text. -/
def text? : FieldValue → Option String
  | text value => some value
  | _ => none

/-- The value as a matrix. -/
def matrix? : FieldValue → Option Matrix
  | matrix value => some value
  | _ => none

/-- The value as a record. -/
def record? : FieldValue → Option Record
  | record elements => some elements
  | _ => none

/-- The value as a flat list of numbers: a scalar, a vector, or a matrix of one row or column. -/
def toVector? : FieldValue → Option (List Float)
  | scalar value => some [value]
  | vector values => some values
  | matrix value => value.toVector?
  | _ => none

end FieldValue

namespace Element

/-- The element without fields. -/
def empty : Element :=
  ofFields []

instance : Inhabited Element :=
  ⟨empty⟩

/-- The fields in the order of their names. -/
def fields : Element → List (String × FieldValue)
  | ofFields fields => fields

/-- The names of the fields in order. -/
def names (element : Element) : List String :=
  element.fields.map Prod.fst

/-- The value of a field. -/
def field (element : Element) (name : String) : FieldValue :=
  (Dictionary.get? name element.fields).getD .absent

/-- The element with a field set. -/
def set (element : Element) (name : String) (value : FieldValue) : Element :=
  ofFields (Dictionary.put name value element.fields)

/-- A field as a text. -/
def text? (element : Element) (name : String) : Option String :=
  (element.field name).text?

/-- A field as a record. -/
def record? (element : Element) (name : String) : Option Record :=
  (element.field name).record?

/-- A field as a text, with the empty text for everything else. -/
def textOrEmpty (element : Element) (name : String) : String :=
  (element.text? name).getD ""

/-- A field that was set reads back, and the others stay as they were. -/
@[simp]
theorem field_set (element : Element) (name other : String) (value : FieldValue) :
    (element.set name value).field other = if name = other then value else element.field other := by
  unfold field set
  simp only [fields, Dictionary.get?_put]
  split <;> rfl

end Element

namespace Record

/-- The element at a position, without fields beyond the end. -/
def element (record : Record) (index : Nat) : Element :=
  record[index]?.getD Element.empty

/-- The first element, without fields in an empty record. -/
def first (record : Record) : Element :=
  record.element 0

/-- A field of the element at a position. -/
def field (record : Record) (name : String) (index : Nat) : FieldValue :=
  (record.element index).field name

end Record

end FigureForm
