/-
# Reading a dump back

Whoever reads a record asks for a field of one of its elements, and if that is a record, for a field
of one of the elements of that, and so on.  A chain of such hops ends at the value that the table
gives for the JSON value at which the same hops end in the text, and at nothing when they lead
nowhere there.  One hop keeps what was loaded together with where it was loaded from, and so does
every chain.
-/

import FigureForm.Proofs.DumpTable

namespace FigureForm

/-- A hop into a record: a field of the element at an index. -/
structure Hop where
  name : String
  index : Nat

namespace Json

/-- The last member with a name. -/
def member? (name : String) : List (String × Json) → Option Json
  | [] => none
  | (other, value) :: rest =>
    match member? name rest with
    | some later => some later
    | none => if other = name then some value else none

/-- The members of an object. -/
def members? : Json → Option (List (String × Json))
  | object members => some members
  | _ => none

/-- The members of the object at an index of a list.  An object by itself is the first of one. -/
def objectAt? (json : Json) (index : Nat) : Option (List (String × Json)) :=
  match json with
  | object members => if index = 0 then some members else none
  | list items => items[index]?.bind members?
  | _ => none

/-- Where a hop leads to in a JSON value. -/
def hop? (json : Json) (hop : Hop) : Option Json :=
  (json.objectAt? hop.index).bind (member? hop.name)

/-- Where hops lead to in a JSON value, one after the other. -/
def follow? (json : Json) : List Hop → Option Json
  | [] => some json
  | hop :: hops => (json.hop? hop).bind (·.follow? hops)

end Json

namespace FieldValue

/-- Where a hop leads to in a value; only records hold anything. -/
def hop : FieldValue → Hop → FieldValue
  | record elements, hop => Record.field elements hop.name hop.index
  | _, _ => absent

/-- Where hops lead to in a value, one after the other. -/
def follow (value : FieldValue) (hops : List Hop) : FieldValue :=
  hops.foldl hop value

theorem follow_absent (hops : List Hop) : absent.follow hops = absent := by
  induction hops with
  | nil => rfl
  | cons _ _ ih => exact ih

end FieldValue

namespace Record

open Json

/-! ## What is found is what was loaded from there -/

/-- Whether a value was loaded from a part of the text, or is absent where there is no such part. -/
def LoadedFrom : Option Json → FieldValue → Prop
  | some json, value => load json = .ok value
  | none, value => value = .absent

/-- A field of an element was loaded from the last member of its name, or it is as before. -/
theorem field_of_loadMembers {start element : Element} {members : List (String × Json)}
    (loaded : loadMembers start members = .ok element) (name : String) :
    (∃ json, member? name members = some json ∧ load json = .ok (element.field name)) ∨
      member? name members = none ∧ element.field name = start.field name := by
  induction members generalizing start with
  | nil =>
    rw [loadMembers] at loaded
    cases loaded
    exact .inr ⟨rfl, rfl⟩
  | cons member rest ih =>
    obtain ⟨other, json⟩ := member
    rw [loadMembers] at loaded
    obtain ⟨value, first, others⟩ := bind_eq_ok_iff.mp loaded
    have first := mapError_eq_ok_iff.mp first
    rw [member?]
    obtain ⟨later, isLater, read⟩ | ⟨noLater, asBefore⟩ := ih others
    · rw [isLater]
      exact .inl ⟨later, rfl, read⟩
    · rw [noLater, asBefore, Element.field_set]
      by_cases same : other = name
      · rw [if_pos same, if_pos same]
        exact .inl ⟨json, rfl, first⟩
      · rw [if_neg same, if_neg same]
        exact .inr ⟨rfl, rfl⟩

/-- The fields of the element of an object were loaded from its members. -/
theorem loadedFrom_member {element : Element} {members : List (String × Json)}
    (loaded : loadMembers Element.empty members = .ok element) (name : String) :
    LoadedFrom (member? name members) (element.field name) := by
  obtain ⟨json, found, read⟩ | ⟨notFound, asBefore⟩ := field_of_loadMembers loaded name
  · rw [found]
    exact read
  · rw [notFound]
    exact asBefore

/-- The elements of a record were loaded from the objects in the text, and beyond the last there is
none. -/
theorem element_of_load {json : Json} {elements : Record}
    (loaded : load json = .ok (.record elements)) (index : Nat) :
    (∃ members, json.objectAt? index = some members ∧
        loadMembers Element.empty members = .ok (elements.element index)) ∨
      json.objectAt? index = none ∧ elements.element index = Element.empty := by
  cases represents_of_load loaded with
  | @object members element =>
    obtain ⟨_, read, same⟩ := load_object_eq_ok_iff.mp loaded
    cases same
    cases index with
    | zero => exact .inl ⟨members, rfl, read⟩
    | succ index => exact .inr ⟨rfl, rfl⟩
  | @objects items _ some areObjects length =>
    obtain ⟨_, read, same⟩ := bind_eq_ok_iff.mp (load_objects some areObjects ▸ loaded)
    cases same
    have here : items[index]?.map loadElement = elements[index]?.map .ok := by
      rw [← List.getElem?_map, ← List.getElem?_map, loadItems_eq_ok_iff.mp read]
    unfold objectAt? Record.element
    dsimp only
    cases found : items[index]? with
    | none =>
      rw [found] at here
      rw [Option.map_eq_none_iff.mp here.symm]
      exact .inr ⟨rfl, rfl⟩
    | some item =>
      obtain ⟨members, rfl⟩ := isObject_iff.mp (areObjects item (List.mem_of_getElem? found))
      rw [found] at here
      obtain ⟨element, isElement, read⟩ := Option.map_eq_some_iff.mp here.symm
      rw [isElement]
      exact .inl ⟨members, rfl, read.symm⟩

theorem objectAt?_list_eq_none {items : List Json}
    (noObjects : ∀ item ∈ items, ¬ item.isObject = true) (index : Nat) :
    (Json.list items).objectAt? index = none := by
  unfold objectAt?
  dsimp only
  cases found : items[index]? with
  | none => rfl
  | some item =>
    cases item with
    | object members => exact absurd rfl (noObjects _ (List.mem_of_getElem? found))
    | _ => rfl

/-- A list is no object. -/
theorem not_isObject_of_isList {json : Json} (isList : json.isList = true) :
    ¬ json.isObject = true := by
  cases json with
  | object members => cases isList
  | _ => exact Bool.false_ne_true

/-- Only values with objects become records. -/
theorem objectAt?_eq_none {json : Json} {value : FieldValue} (represents : Represents json value)
    (noRecord : ∀ elements, value ≠ .record elements) (index : Nat) :
    json.objectAt? index = none := by
  cases represents with
  | @texts items texts some each =>
    apply objectAt?_list_eq_none
    intro item among
    rw [each] at among
    obtain ⟨text, _, rfl⟩ := List.mem_map.mp among
    exact Bool.false_ne_true
  | @numbers items values some each =>
    apply objectAt?_list_eq_none
    intro item among isObject
    have number : item.number? ∈ items.map number? := List.mem_map_of_mem among
    rw [each] at number
    obtain ⟨members, rfl⟩ := isObject_iff.mp isObject
    obtain ⟨_, _, impossible⟩ := List.mem_map.mp number
    cases impossible
  | rows some rows planes even entries =>
    exact objectAt?_list_eq_none
      (fun item among => not_isObject_of_isList (isList_of_isRow (even item among))) index
  | pixels some rows columns even entries =>
    exact objectAt?_list_eq_none
      (fun item among => not_isObject_of_isList (isList_of_isPixelRow (even item among))) index
  | object => exact absurd rfl (noRecord _)
  | objects some areObjects length => exact absurd rfl (noRecord _)
  | _ => rfl

/-- One hop leads to what was loaded from where the same hop leads in the text. -/
theorem loadedFrom_hop {json : Json} {value : FieldValue} (loaded : load json = .ok value)
    (hop : Hop) : LoadedFrom (json.hop? hop) (value.hop hop) := by
  have elsewhere (noRecord : ∀ elements, value ≠ .record elements) : json.hop? hop = none := by
    rw [hop?, objectAt?_eq_none (represents_of_load loaded) noRecord]
    rfl
  cases value with
  | record elements =>
    show LoadedFrom _ ((element elements hop.index).field hop.name)
    rw [hop?]
    obtain ⟨members, found, read⟩ | ⟨notFound, beyond⟩ := element_of_load loaded hop.index
    · rw [found]
      exact loadedFrom_member read hop.name
    · rw [notFound, beyond]
      rfl
  | _ =>
    rw [elsewhere fun _ => nofun]
    rfl

/-- So does every chain of hops.  The induction is on the hops, for every value on the way. -/
theorem loadedFrom_follow {json : Json} {value : FieldValue} (loaded : load json = .ok value)
    (hops : List Hop) : LoadedFrom (json.follow? hops) (value.follow hops) := by
  induction hops generalizing json value with
  | nil => exact loaded
  | cons hop hops ih =>
    have step := loadedFrom_hop loaded hop
    show LoadedFrom ((json.hop? hop).bind (·.follow? hops)) ((value.hop hop).follow hops)
    cases reached : json.hop? hop with
    | none =>
      rw [reached] at step
      rw [show value.hop hop = .absent from step, FieldValue.follow_absent]
      rfl
    | some next =>
      rw [reached] at step
      exact ih step

end Record

namespace Json

/-- What the table gives where hops lead to: the value for the part that they reach, and the absent
value where they reach nothing. -/
def RepresentsAt : Option Json → FieldValue → Prop
  | some json, value => Represents json value
  | none, value => value = .absent

end Json

namespace Dump

open Json

/-- The loader accepts its grammar and keeps what can be reached.  A JSON value is a dump exactly when
it is an object of variables.  The variables of a dump then have the names of the members in order,
and every chain of hops from a variable ends at the value that the table gives for the part of the
text where the same hops end. -/
theorem ofJson_accepts_and_navigates (root : Json) :
    ((∃ dump, ofJson root = .ok dump) ↔
        ∃ members, root = .object members ∧ ∀ member ∈ members, member.2.IsVariable) ∧
      ∀ dump, ofJson root = .ok dump → ∃ members, root = .object members ∧
        dump.records.map Prod.fst = members.map Prod.fst ∧
        ∀ (index : Nat) (name : String) (json : Json), members[index]? = some (name, json) →
          ∃ record, dump.records[index]? = some (name, record) ∧
            ∀ hops, RepresentsAt (json.follow? hops) ((FieldValue.record record).follow hops) := by
  refine ⟨exists_ofJson_iff, fun dump loaded => ?_⟩
  obtain ⟨members, isObject, loaded⟩ := ofJson_eq_ok_iff.mp loaded
  have each := loadVariables_eq_ok_iff.mp loaded
  refine ⟨members, isObject, ?_, fun index name json found => ?_⟩
  · have names := congrArg (List.map Prod.fst) each
    rw [List.map_map, List.map_map] at names
    exact names.symm
  · have here := congrArg (·[index]?) each
    simp only [List.getElem?_map, found, Option.map_some] at here
    obtain ⟨⟨_, record⟩, isRecord, same⟩ := Option.map_eq_some_iff.mp here.symm
    obtain ⟨rfl, read⟩ := Prod.mk.inj same
    refine ⟨record, isRecord, fun hops => ?_⟩
    have reached := Record.loadedFrom_follow (Record.loadVariable_eq_ok_iff.mp read.symm) hops
    cases target : json.follow? hops with
    | none =>
      rw [target] at reached
      exact reached
    | some part =>
      rw [target] at reached
      exact Record.represents_of_load reached

/-- Rows of numbers with a null and a truth value among them. -/
def someCells : Json :=
  .list [.list [.number 1, .null], .list [.boolean true, .number 2]]

/-- A dump of one variable with two elements, the second of which holds the rows. -/
def someDump : Json :=
  .object [("figure", .list [.object [], .object [("cells", someCells)]])]

/-- The rows are found in the second element, and the first has none. -/
theorem ofJson_accepts_and_navigates_cells :
    ∃ dump record, ofJson someDump = .ok dump ∧ dump.records[0]? = some ("figure", record) ∧
      Represents someCells ((FieldValue.record record).follow [⟨"cells", 1⟩]) ∧
      (FieldValue.record record).follow [⟨"cells", 0⟩] = .absent := by
  have cells : Convertible someCells := by
    refine .rows 2 ?_
    simp only [List.forall_mem_cons, List.not_mem_nil, false_imp_iff, implies_true, and_true]
    exact ⟨⟨_, rfl, rfl, by decide⟩, ⟨_, rfl, rfl, by decide⟩⟩
  have figure : IsVariable (.list [.object [], .object [("cells", someCells)]]) := by
    refine .objects (by simp) (by simp [isObject]) ?_
    simp only [List.forall_mem_cons, List.not_mem_nil, false_imp_iff, implies_true, and_true]
    refine ⟨.object (List.forall_mem_nil _), .object ?_⟩
    simpa using cells
  obtain ⟨accepts, navigates⟩ := ofJson_accepts_and_navigates someDump
  obtain ⟨dump, loaded⟩ := accepts.mpr ⟨_, rfl, by simpa using figure⟩
  obtain ⟨members, isObject, -, each⟩ := navigates dump loaded
  cases isObject
  obtain ⟨record, found, reached⟩ := each 0 _ _ rfl
  exact ⟨dump, record, loaded, found, reached [⟨"cells", 1⟩], reached [⟨"cells", 0⟩]⟩

end Dump

end FigureForm
