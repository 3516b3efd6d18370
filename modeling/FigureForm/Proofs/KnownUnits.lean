/-
# Units that are not known

A unit that is missing, that is no text, or whose word is none of the five known ones stands for
pixels.  `Dump.inKnownUnits` writes pixels in its place, in the properties of the window and of every
component at every depth.  The form stays the same, and so does the fault of a dump without a form;
all that is gone are the remarks on unknown units.
-/

import FigureForm.Proofs.Adjustment
import FigureForm.Proofs.Alike

namespace FigureForm

namespace Element

/-- Properties with pixels for their unit, unless it is a known one. -/
def withKnownUnit (properties : Element) : Element :=
  if ((properties.text? "Units").bind LengthUnit.ofWord?).isSome then properties
  else properties.set "Units" (.text "pixels")

/-- The same for a record of properties; one without elements gets one that holds the unit. -/
def allWithKnownUnit (properties : Record) : Record :=
  properties.first.withKnownUnit :: properties.tail.map withKnownUnit

mutual

/-- A component whose properties, and those of all components inside it, have known units. -/
def inKnownUnits : Element → Element
  | .ofFields fields => .ofFields (fieldsInKnownUnits fields)

/-- Fields of a component with known units in its properties and its children. -/
def fieldsInKnownUnits : List (String × FieldValue) → List (String × FieldValue)
  | [] => []
  | (name, value) :: rest => (name, valueInKnownUnits name value) :: fieldsInKnownUnits rest

/-- The value of a field of a component with known units. -/
def valueInKnownUnits (name : String) : FieldValue → FieldValue
  | .record elements =>
    if name = "children" then .record (allInKnownUnits elements)
    else if name = "properties" then .record (allWithKnownUnit elements)
    else .record elements
  | value => value

/-- Components with known units. -/
def allInKnownUnits : List Element → List Element
  | [] => []
  | component :: rest => inKnownUnits component :: allInKnownUnits rest

end

end Element

/-- The dump in which all units of the figure are known. -/
def Dump.inKnownUnits (opening : String) (dump : Dump) : Dump :=
  dump.mapRoot opening Element.allInKnownUnits

namespace Element

theorem allInKnownUnits_eq (components : Record) :
    allInKnownUnits components = components.map inKnownUnits := by
  induction components with
  | nil => rw [allInKnownUnits]; rfl
  | cons component rest ih => rw [allInKnownUnits, ih, List.map_cons]

theorem inKnownUnits_eq (component : Element) :
    component.inKnownUnits = component.mapFields valueInKnownUnits := by
  obtain ⟨fields⟩ := component
  rw [inKnownUnits]
  apply congrArg ofFields
  induction fields with
  | nil => rw [fieldsInKnownUnits]; rfl
  | cons first rest ih =>
    obtain ⟨name, value⟩ := first
    rw [fieldsInKnownUnits, ih]
    rfl

section

variable (component : Element)

theorem field_inKnownUnits (name : String) :
    component.inKnownUnits.field name = valueInKnownUnits name (component.field name) := by
  have nothing : valueInKnownUnits name .absent = .absent := by
    rw [valueInKnownUnits]
    intro elements impossible
    cases impossible
  rw [inKnownUnits_eq, field_mapFields nothing]

theorem text?_inKnownUnits (name : String) :
    component.inKnownUnits.text? name = component.text? name := by
  rw [text?, field_inKnownUnits, text?]
  cases component.field name with
  | record elements =>
    rw [valueInKnownUnits]
    split
    · rfl
    · split <;> rfl
  | _ => rfl

theorem record?_inKnownUnits (name : String) (change : Record → Record)
    (changed : ∀ elements, valueInKnownUnits name (.record elements) = .record (change elements)) :
    component.inKnownUnits.record? name = (component.record? name).map change := by
  rw [record?, field_inKnownUnits, record?]
  cases component.field name with
  | record elements => rw [changed]; rfl
  | _ => rfl

theorem children_inKnownUnits :
    component.inKnownUnits.children = component.children.map inKnownUnits := by
  rw [children, record?_inKnownUnits component "children" allInKnownUnits, children]
  · cases component.record? "children" with
    | none => rfl
    | some elements => exact allInKnownUnits_eq elements
  · intro elements
    rw [valueInKnownUnits, if_pos rfl]

theorem properties?_inKnownUnits :
    Figure.properties? component.inKnownUnits =
      (Figure.properties? component).map withKnownUnit := by
  rw [Figure.properties?, record?_inKnownUnits component "properties" allWithKnownUnit,
    Figure.properties?, Option.map_map, Option.map_map]
  · rfl
  · intro elements
    rw [valueInKnownUnits, if_neg (by decide), if_pos rfl]

end

/-! ## Units -/

variable (properties : Element)

/-- Only the unit of properties is replaced. -/
theorem field_withKnownUnit {name : String} (other : "Units" ≠ name) :
    properties.withKnownUnit.field name = properties.field name := by
  rw [withKnownUnit]
  split
  · rfl
  · rw [field_set, if_neg other]

theorem agreeOn_withKnownUnit {names : List String} (others : "Units" ∉ names) :
    AgreeOn names properties properties.withKnownUnit := by
  intro name among
  rw [field_withKnownUnit]
  rintro rfl
  exact others among

/-- A text that is missing or no text at all names no unit. -/
theorem ofWord?_textOrEmpty :
    LengthUnit.ofWord? (properties.textOrEmpty "Units") =
      (properties.text? "Units").bind LengthUnit.ofWord? := by
  rw [textOrEmpty]
  cases properties.text? "Units" with
  | none => decide
  | some word => rfl

/-- The unit that properties are read in stays the same, and nothing is left to remark on. -/
theorem unitOf_withKnownUnit (place : Place) :
    Figure.unitOf place properties.withKnownUnit =
      ⟨(Figure.unitOf place properties).value, []⟩ := by
  rw [Figure.unitOf_eq, Figure.unitOf_eq, withKnownUnit, ← ofWord?_textOrEmpty]
  split
  next known =>
    have unremarked : ¬ ((LengthUnit.ofWord? (properties.textOrEmpty "Units")).isNone = true ∧
        properties.textOrEmpty "Units" ≠ "") := by
      rintro ⟨unknown, -⟩
      rw [Option.isNone_iff_eq_none.mp unknown] at known
      cases known
    rw [if_neg unremarked]
  next unknown =>
    have word : (properties.set "Units" (.text "pixels")).textOrEmpty "Units" = "pixels" := by
      rw [textOrEmpty, text?, field_set, if_pos rfl]
      rfl
    rw [word, Option.not_isSome_iff_eq_none.mp unknown]
    rfl

end Element

namespace Figure

/-- No remark on a unit is kept. -/
theorem filter_notes_unitOf (place : Place) (properties : Element) :
    (unitOf place properties).notes.filter (fun remark => !remark.isUnknownUnits) = [] := by
  rw [unitOf_eq]
  dsimp only
  split <;> rfl

variable (metrics : FontMetrics)

theorem placementsMatch_withKnownUnit (properties : Element) :
    PlacementsMatch (fun remark => !remark.isUnknownUnits) metrics metrics
      properties properties.withKnownUnit where
  position := (properties.agreeOn_withKnownUnit (by decide)).positionOf? (List.mem_singleton_self _)
  scale := by
    have unit := congrArg Noted.value (properties.unitOf_withKnownUnit (.top ""))
    rw [unitOf_eq, unitOf_eq] at unit
    exact congrArg (LengthUnit.scale metrics) unit.symm
  remarks place := by rw [filter_notes_unitOf, properties.unitOf_withKnownUnit]

theorem matchingChange_inKnownUnits :
    MatchingChange (fun remark => !remark.isUnknownUnits) metrics Element.inKnownUnits
      Element.withKnownUnit where
  empty := rfl
  type component := component.text?_inKnownUnits "type"
  properties := Element.properties?_inKnownUnits
  children := Element.children_inKnownUnits
  ofTool properties :=
    toolPropertiesMatch_of_agree (properties.agreeOn_withKnownUnit (by decide))
  ofComponent properties := propertiesMatch_of_agree
    (placementsMatch_withKnownUnit metrics properties)
    (properties.agreeOn_withKnownUnit (by decide))
  ofWindow properties := windowPropertiesMatch_of_agree
    (placementsMatch_withKnownUnit metrics properties)
    (properties.agreeOn_withKnownUnit (by decide))

/-- Units that are not known count as pixels.  A dump and the same dump with pixels for every unit of
its figure that is missing, no text or no known word have the same form, or neither has one for the
same reason; and the remarks on the second are those on the first without the ones on unknown units,
in the same order. -/
theorem formOf_inKnownUnits (options : FormOptions) (dump : Dump) :
    formOf options (dump.inKnownUnits options.opening) =
      (formOf options dump).map (Noted.keeping fun remark => !remark.isUnknownUnits) := by
  refine formOf_of_matchingChange (fun remark other => by rw [other]; rfl)
    (matchingChange_inKnownUnits options.metrics) ?_
  rw [Dump.inKnownUnits, Dump.root?_mapRoot]
  congr 1
  funext root
  rw [Element.allInKnownUnits_eq]

end Figure

end FigureForm
