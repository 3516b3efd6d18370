/-
# Figures with other children

What is changed when the children of a component are replaced, and when the record is replaced that
describes the figure of a dump: the fields of other names stay as they are, and the root is found
where it was.
-/

import FigureForm.Proofs.Components
import FigureForm.Record.Loading

namespace FigureForm

namespace Dictionary

variable {α : Type}

/-- Entries with the value under a name changed. -/
def adjust (name : String) (change : α → α) : List (String × α) → List (String × α)
  | [] => []
  | (other, value) :: rest =>
    if other = name then (other, change value) :: rest
    else (other, value) :: adjust name change rest

theorem get?_adjust (name other : String) (change : α → α) (entries : List (String × α)) :
    get? other (adjust name change entries) =
      if name = other then (get? other entries).map change else get? other entries := by
  induction entries with
  | nil => simp [adjust, get?]
  | cons first rest ih =>
    obtain ⟨present, value⟩ := first
    rw [adjust]
    split
    next same =>
      subst same
      rw [get?, get?]
      split <;> rfl
    next differs =>
      rw [get?, get?, ih]
      by_cases found : present = other
      · subst found
        rw [if_pos rfl, if_pos rfl, if_neg (Ne.symm differs)]
      · rw [if_neg found, if_neg found]

/-- Entries with every value changed after its name. -/
def mapValues (change : String → α → α) (entries : List (String × α)) : List (String × α) :=
  entries.map fun (name, value) => (name, change name value)

theorem mapValues_cons (name : String) (value : α) (change : String → α → α)
    (rest : List (String × α)) :
    mapValues change ((name, value) :: rest) =
      (name, change name value) :: mapValues change rest :=
  rfl

theorem get?_mapValues (name : String) (change : String → α → α) (entries : List (String × α)) :
    get? name (mapValues change entries) = (get? name entries).map (change name) := by
  induction entries with
  | nil => rfl
  | cons first rest ih =>
    obtain ⟨other, value⟩ := first
    rw [mapValues_cons, get?, get?]
    by_cases same : other = name
    · subst same
      rw [if_pos rfl, if_pos rfl, Option.map_some]
    · rw [if_neg same, if_neg same, ih]

/-- A value is changed before or after it is put. -/
theorem mapValues_put (name : String) (value : α) (change : String → α → α)
    (entries : List (String × α)) :
    mapValues change (put name value entries) =
      put name (change name value) (mapValues change entries) := by
  induction entries with
  | nil => rfl
  | cons first rest ih =>
    obtain ⟨other, old⟩ := first
    rw [put, mapValues_cons, put]
    by_cases same : other = name
    · rw [if_pos same, if_pos same, mapValues_cons]
    · rw [if_neg same, if_neg same]
      by_cases before : name < other
      · rw [if_pos before, if_pos before, mapValues_cons, mapValues_cons]
      · rw [if_neg before, if_neg before, mapValues_cons, ih]

end Dictionary

/-- A record changed; other values hold none. -/
def FieldValue.mapRecord (change : Record → Record) : FieldValue → FieldValue
  | .record elements => .record (change elements)
  | value => value

namespace Element

/-- The component with the record of its children changed, if it has one. -/
def mapChildren (change : Record → Record) (component : Element) : Element :=
  .ofFields (Dictionary.adjust "children" (FieldValue.mapRecord change) component.fields)

variable (change : Record → Record) (component : Element)

theorem field_mapChildren {name : String} (other : "children" ≠ name) :
    (component.mapChildren change).field name = component.field name := by
  rw [field, mapChildren, fields, Dictionary.get?_adjust, if_neg other, field]

theorem children_mapChildren (nothing : change [] = []) :
    (component.mapChildren change).children = change component.children := by
  rw [children, record?, field, mapChildren, fields, Dictionary.get?_adjust, if_pos rfl, children,
    record?, field]
  cases Dictionary.get? "children" component.fields with
  | none => exact nothing.symm
  | some value =>
    cases value with
    | record elements => rfl
    | _ => exact nothing.symm

theorem mapChildren_id : component.mapChildren id = component := by
  have value : FieldValue.mapRecord id = id := by
    funext value
    cases value <;> rfl
  obtain ⟨own⟩ := component
  rw [mapChildren, fields, value]
  induction own with
  | nil => rfl
  | cons first rest ih =>
    rw [Dictionary.adjust, ofFields.inj ih]
    split <;> rfl

/-- The element with the value of every field changed after its name. -/
def mapFields (change : String → FieldValue → FieldValue) (element : Element) : Element :=
  .ofFields (Dictionary.mapValues change element.fields)

theorem field_mapFields {change : String → FieldValue → FieldValue} {name : String}
    (nothing : change name .absent = .absent) (element : Element) :
    (element.mapFields change).field name = change name (element.field name) := by
  have changed : Dictionary.get? name (element.mapFields change).fields =
      (Dictionary.get? name element.fields).map (change name) :=
    Dictionary.get?_mapValues name change element.fields
  rw [field, changed, field]
  cases Dictionary.get? name element.fields with
  | none => exact nothing.symm
  | some value => rfl

theorem mapFields_set (change : String → FieldValue → FieldValue) (element : Element)
    (name : String) (value : FieldValue) :
    (element.set name value).mapFields change =
      (element.mapFields change).set name (change name value) :=
  congrArg ofFields (Dictionary.mapValues_put name value change element.fields)

end Element

namespace Figure

theorem properties?_mapChildren (change : Record → Record) (component : Element) :
    properties? (component.mapChildren change) = properties? component := by
  rw [properties?, Element.record?, Element.field_mapChildren _ _ (by decide)]
  rfl

end Figure

namespace Dump

/-- Entries with the first of a sort changed. -/
def adjustFirst {α : Type} (chosen : α → Bool) (change : α → α) : List α → List α
  | [] => []
  | entry :: rest =>
    if chosen entry then change entry :: rest else entry :: adjustFirst chosen change rest

theorem find?_adjustFirst {α : Type} {chosen : α → Bool} {change : α → α}
    (stays : ∀ entry, chosen (change entry) = chosen entry) (entries : List α) :
    (adjustFirst chosen change entries).find? chosen = (entries.find? chosen).map change := by
  induction entries with
  | nil => rfl
  | cons entry rest ih =>
    rw [adjustFirst]
    by_cases isChosen : chosen entry = true
    · rw [if_pos isChosen, List.find?_cons_of_pos isChosen,
        List.find?_cons_of_pos ((stays entry).trans isChosen)]
      rfl
    · rw [if_neg isChosen, List.find?_cons_of_neg isChosen, List.find?_cons_of_neg isChosen, ih]

/-- The dump with the record of the root changed: of the variables with the wanted opening, the
last. -/
def mapRoot (opening : String) (change : Record → Record) (dump : Dump) : Dump where
  records := (adjustFirst (fun (name, _) => opening.toList.isPrefixOf name.toList)
    (fun root => (root.1, change root.2)) dump.records.reverse).reverse

theorem root?_mapRoot (opening : String) (change : Record → Record) (dump : Dump) :
    (dump.mapRoot opening change).root? opening =
      (dump.root? opening).map fun root => (root.1, change root.2) := by
  rw [root?, root?, mapRoot, List.reverse_reverse]
  apply find?_adjustFirst
  exact fun _ => rfl

end Dump

end FigureForm
