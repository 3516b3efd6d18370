/-
# Records from JSON

A dump of a figure is a JSON object whose members are its variables, each of them a record.
Objects become elements, lists become vectors, text lists, matrices or records after their first
item that is not null, and `null` counts as a number that is not one.  Whatever fits none of these
is reported with its address, the steps that lead to it from the top.
-/

import FigureForm.Json.Reader
import FigureForm.Record.Value

namespace FigureForm

namespace Json

/-- One step into a value. -/
inductive Step
  | member (name : String)
  | item (index : Nat)
  deriving DecidableEq, Repr

/-- Text of a step. -/
def Step.text : Step → String
  | member name => "." ++ name
  | item index => "[" ++ toString index ++ "]"

/-- Text of an address, which starts at the top. -/
def addressText (steps : List Step) : String :=
  steps.foldl (fun text step => text ++ step.text) "$"

end Json

/-- What is wrong with the value at an address. -/
inductive Defect
  | topNotObject
  | variableNotRecord (kindName : String)
  | mixedTexts
  | mixedRecords
  | expectedList
  | expectedNumber
  | ragged
  deriving DecidableEq, Repr

/-- What is said about a defect. -/
def Defect.message : Defect → String
  | topNotObject => "top level must be an object of variables"
  | variableNotRecord kindName => "variable must be a struct, found " ++ kindName
  | mixedTexts => "mixed string list"
  | mixedRecords => "mixed struct array"
  | expectedList => "expected an array"
  | expectedNumber => "expected a number"
  | ragged => "ragged matrix"

/-- A defect at an address. -/
structure Malformed where
  address : List Json.Step
  defect : Defect
  deriving DecidableEq, Repr

/-- What is said about a malformed value. -/
def Malformed.message (malformed : Malformed) : String :=
  "Malformed record at '" ++ Json.addressText malformed.address ++ "': " ++ malformed.defect.message

namespace Record

/-- The outcome of reading a part of a JSON value, with the address counted from that part. -/
abbrev Loaded (α : Type) := Except Malformed α

/-- A defect of the value itself. -/
def reject {α : Type} (defect : Defect) : Loaded α :=
  .error ⟨[], defect⟩

/-- The outcome for the part one step below. -/
def below {α : Type} (step : Json.Step) (loaded : Loaded α) : Loaded α :=
  loaded.mapError fun malformed => { malformed with address := step :: malformed.address }

/-- The double that is not a number. -/
def notANumber : Float :=
  0.0 / 0.0

/-- The number of a truth value. -/
def ofBoolean (value : Bool) : Float :=
  if value then 1.0 else 0.0

/-- A text in a list of texts. -/
def loadText : Json → Loaded String
  | .text value => .ok value
  | _ => reject .mixedTexts

/-- A number in a list of numbers. -/
def loadNumber : Json → Loaded Float
  | .null => .ok notANumber
  | .number value => .ok value
  | .boolean value => .ok (ofBoolean value)
  | _ => reject .expectedNumber

/-- Reads items in order, counting from an index; the first defect wins. -/
def loadItems {α : Type} (load : Json → Loaded α) (index : Nat) : List Json → Loaded (List α)
  | [] => .ok []
  | item :: rest => do
    let value ← below (.item index) (load item)
    let values ← loadItems load (index + 1) rest
    return value :: values

/-- A list, each of whose items is read the same way. -/
def loadList {α : Type} (load : Json → Loaded α) : Json → Loaded (List α)
  | .list items => loadItems load 0 items
  | _ => reject .expectedList

/-- Whether rows hold at least one list, so that they are rows of pixels. -/
def hasPixels (rows : List Json) : Bool :=
  rows.any fun row =>
    match row with
    | .list cells => cells.any Json.isList
    | _ => false

/-- A matrix whose rows all have the same shape. -/
def even (matrix : Option Matrix) : Loaded Matrix :=
  match matrix with
  | some matrix => .ok matrix
  | none => reject .ragged

/-- The matrix of rows of numbers or of pixels. -/
def loadMatrix (rows : List Json) : Loaded Matrix :=
  if hasPixels rows then do
    even (Matrix.ofPixels? (← loadItems (loadList (loadList loadNumber)) 0 rows))
  else do
    even (Matrix.ofRows? (← loadItems (loadList loadNumber) 0 rows))

mutual

/-- The field value of a JSON value. -/
def load : Json → Loaded FieldValue
  | .null => .ok .absent
  | .boolean value => .ok (.scalar (ofBoolean value))
  | .number value => .ok (.scalar value)
  | .text value => .ok (.text value)
  | .object members => do return .record [← loadMembers Element.empty members]
  | .list items =>
    match items.find? (fun item => !item.isNull) with
    | none =>
      .ok (if items.isEmpty then .absent else .vector (items.map fun _ => notANumber))
    | some (.text _) => do return .textList (← loadItems loadText 0 items)
    | some (.object _) => do return .record (← loadElements 0 items)
    | some (.list _) => do return .matrix (← loadMatrix items)
    | some _ => do return .vector (← loadItems loadNumber 0 items)

/-- An element with the members of an object as further fields. -/
def loadMembers (element : Element) : List (String × Json) → Loaded Element
  | [] => .ok element
  | (name, value) :: rest => do
    let loaded ← below (.member name) (load value)
    loadMembers (element.set name loaded) rest

/-- The elements of a list of objects, counting from an index. -/
def loadElements (index : Nat) : List Json → Loaded (List Element)
  | [] => .ok []
  | .object members :: rest => do
    let element ← below (.item index) (loadMembers Element.empty members)
    let elements ← loadElements (index + 1) rest
    return element :: elements
  | _ :: _ => below (.item index) (reject .mixedRecords)

end

/-- A variable, which has to be a record. -/
def loadVariable (value : Json) : Loaded Record := do
  match ← load value with
  | .record elements => return elements
  | other => reject (.variableNotRecord other.kindName)

end Record

/-- A dump of a figure: named records in the order of the text. -/
structure Dump where
  records : List (String × Record)

namespace Dump

/-- The variables of the members of an object. -/
def loadVariables : List (String × Json) → Record.Loaded (List (String × Record))
  | [] => .ok []
  | (name, value) :: rest => do
    let record ← Record.below (.member name) (Record.loadVariable value)
    let records ← loadVariables rest
    return (name, record) :: records

/-- The dump that a JSON value describes. -/
def ofJson : Json → Except Malformed Dump
  | .object members => do return ⟨← loadVariables members⟩
  | _ => .error ⟨[], .topNotObject⟩

/-- The last variable whose name starts with the given text. -/
def root? (dump : Dump) (opening : String) : Option (String × Record) :=
  dump.records.reverse.find? fun (name, _) => opening.toList.isPrefixOf name.toList

end Dump

end FigureForm
