/-
# Which JSON values are dumps

`Convertible` is the grammar of the values that a record can hold, with one rule for each shape of
list, and a dump is an object whose members are records (`exists_ofJson_iff`).  The loader looks at
the first item of a list that is not null and then decides for the whole list; `listReading` makes
that case split once, and a rule applies to a list exactly when the loader gets through in the case
that the rule belongs to.  Objects are followed by induction on the parts of a value.
-/

import FigureForm.Proofs.ItemLoading

namespace FigureForm

namespace Json

/-- The values that a record can hold. -/
inductive Convertible : Json → Prop
  | null : Convertible .null
  | boolean (value : Bool) : Convertible (.boolean value)
  | number (value : Float) : Convertible (.number value)
  | text (value : String) : Convertible (.text value)
  | object {members : List (String × Json)} (each : ∀ member ∈ members, Convertible member.2) :
      Convertible (.object members)
  | empty : Convertible (.list [])
  | nulls {items : List Json} (each : ∀ item ∈ items, item.isNull) : Convertible (.list items)
  | texts {items : List Json} (each : ∀ item ∈ items, item.isText) : Convertible (.list items)
  | numbers {items : List Json} (each : ∀ item ∈ items, item.isNumeric) : Convertible (.list items)
  | objects {items : List Json} (areObjects : ∀ item ∈ items, item.isObject)
      (each : ∀ item ∈ items, Convertible item) : Convertible (.list items)
  | rows {items : List Json} (columns : Nat) (each : ∀ item ∈ items, IsRow columns item) :
      Convertible (.list items)
  | pixels {items : List Json} (columns planes : Nat) (some : 0 < columns)
      (each : ∀ item ∈ items, IsPixelRow columns planes item) : Convertible (.list items)

/-- A variable of a dump: a record of one element or of several. -/
inductive IsVariable : Json → Prop
  | object {members : List (String × Json)} (convertible : Convertible (.object members)) :
      IsVariable (.object members)
  | objects {items : List Json} (some : items ≠ []) (areObjects : ∀ item ∈ items, item.isObject)
      (each : ∀ item ∈ items, Convertible item) : IsVariable (.list items)

/-- The values directly inside a value. -/
def parts : Json → List Json
  | list items => items
  | object members => members.map Prod.snd
  | _ => []

theorem sizeOf_lt_of_mem_parts {json part : Json} (inside : part ∈ json.parts) :
    sizeOf part < sizeOf json := by
  cases json with
  | list items =>
    have smaller := List.sizeOf_lt_of_mem (show part ∈ items from inside)
    simp only [list.sizeOf_spec]
    omega
  | object members =>
    obtain ⟨⟨name, value⟩, among, rfl⟩ := List.mem_map.mp inside
    have smaller := List.sizeOf_lt_of_mem among
    simp only [Prod.mk.sizeOf_spec] at smaller
    simp only [object.sizeOf_spec]
    omega
  | _ => cases inside

/-- What passes from the values inside a value to the value itself holds of every value. -/
theorem partsInduction {motive : Json → Prop}
    (step : ∀ json : Json, (∀ part ∈ json.parts, motive part) → motive json) (json : Json) :
    motive json :=
  step json fun part _inside => partsInduction step part
termination_by sizeOf json
decreasing_by exact sizeOf_lt_of_mem_parts _inside

theorem convertible_object_iff {members : List (String × Json)} :
    Convertible (.object members) ↔ ∀ member ∈ members, Convertible member.2 := by
  constructor
  · intro convertible
    cases convertible with
    | object each => exact each
  · exact .object

theorem convertible_list_iff {items : List Json} :
    Convertible (.list items) ↔
      (∀ item ∈ items, item.isNull) ∨ (∀ item ∈ items, item.isText) ∨
        (∀ item ∈ items, item.isNumeric) ∨ (∀ item ∈ items, item.isObject ∧ Convertible item) ∨
        (∃ columns, ∀ item ∈ items, IsRow columns item) ∨
        ∃ columns planes, 0 < columns ∧ ∀ item ∈ items, IsPixelRow columns planes item := by
  constructor
  · intro convertible
    cases convertible with
    | empty => exact .inl fun _ none => nomatch none
    | nulls each => exact .inl each
    | texts each => exact .inr (.inl each)
    | numbers each => exact .inr (.inr (.inl each))
    | objects areObjects each =>
      exact .inr (.inr (.inr (.inl fun item among => ⟨areObjects item among, each item among⟩)))
    | rows columns each => exact .inr (.inr (.inr (.inr (.inl ⟨columns, each⟩))))
    | pixels columns planes some each =>
      exact .inr (.inr (.inr (.inr (.inr ⟨columns, planes, some, each⟩))))
  · rintro (each | each | each | each | ⟨columns, each⟩ | ⟨columns, planes, some, each⟩)
    · exact .nulls each
    · exact .texts each
    · exact .numbers each
    · exact .objects (fun item among => (each item among).1) fun item among => (each item among).2
    · exact .rows columns each
    · exact .pixels columns planes some each

end Json

namespace Record

open Json

/-! ## Objects -/

/-- An object in a list of objects. -/
def loadElement : Json → Loaded Element
  | .object members => loadMembers Element.empty members
  | _ => reject .mixedRecords

theorem loadElements_eq (index : Nat) (items : List Json) :
    loadElements index items = loadItems loadElement index items := by
  induction items generalizing index with
  | nil => rw [loadElements, loadItems]
  | cons item rest ih =>
    cases item with
    | object members => rw [loadElements, loadItems, ih, loadElement]
    | _ => rfl

theorem exists_loadMembers_iff {start : Element} {members : List (String × Json)} :
    (∃ element, loadMembers start members = .ok element) ↔
      ∀ member ∈ members, ∃ value, load member.2 = .ok value := by
  induction members generalizing start with
  | nil => simp [loadMembers]
  | cons member rest ih =>
    obtain ⟨name, json⟩ := member
    rw [loadMembers, List.forall_mem_cons]
    constructor
    · rintro ⟨element, loaded⟩
      obtain ⟨value, first, others⟩ := bind_eq_ok_iff.mp loaded
      exact ⟨⟨value, mapError_eq_ok_iff.mp first⟩, ih.mp ⟨element, others⟩⟩
    · rintro ⟨⟨value, first⟩, others⟩
      obtain ⟨element, loaded⟩ := ih.mpr others
      exact ⟨element, bind_eq_ok_iff.mpr ⟨value, mapError_eq_ok_iff.mpr first, loaded⟩⟩

theorem load_object_eq_ok_iff {members : List (String × Json)} {value : FieldValue} :
    load (.object members) = .ok value ↔
      ∃ element, loadMembers Element.empty members = .ok element ∧ value = .record [element] := by
  rw [load, bind_eq_ok_iff]
  apply exists_congr
  intro element
  apply and_congr_right
  intro _
  exact ⟨fun same => (Except.ok.inj same).symm, fun same => congrArg Except.ok same.symm⟩

theorem exists_load_object_iff {members : List (String × Json)} :
    (∃ value, load (.object members) = .ok value) ↔
      ∀ member ∈ members, ∃ value, load member.2 = .ok value := by
  rw [← exists_loadMembers_iff]
  simp only [load_object_eq_ok_iff]
  constructor
  · rintro ⟨_, element, loaded, _⟩
    exact ⟨element, loaded⟩
  · rintro ⟨element, loaded⟩
    exact ⟨_, element, loaded, rfl⟩

theorem exists_loadElement_iff {json : Json} :
    (∃ element, loadElement json = .ok element) ↔
      json.isObject = true ∧ ∃ value, load json = .ok value := by
  cases json with
  | object members =>
    rw [exists_load_object_iff, loadElement, exists_loadMembers_iff]
    simp [isObject]
  | _ => simp [loadElement, reject, isObject]

/-! ## Lists -/

/-- What a list is to the loader, after its first item that is not null. -/
inductive ListReading (items : List Json) : Prop
  | nulls (each : ∀ item ∈ items, item.isNull)
      (outcome : load (.list items) =
        .ok (if items.isEmpty then .absent else .vector (items.map fun _ => notANumber)))
  | texts (text : String) (first : .text text ∈ items)
      (outcome : load (.list items) = do return .textList (← loadItems loadText 0 items))
  | numbers (number : Json) (first : number ∈ items) (numeric : number.isNumeric)
      (notNull : number ≠ .null)
      (outcome : load (.list items) = do return .vector (← loadItems loadNumber 0 items))
  | objects (members : List (String × Json)) (first : .object members ∈ items)
      (outcome : load (.list items) = do return .record (← loadItems loadElement 0 items))
  | lists (cells : List Json) (first : .list cells ∈ items)
      (outcome : load (.list items) = do return .matrix (← loadMatrix items))

/-- Every list is one of the five things. -/
theorem listReading (items : List Json) : ListReading items := by
  cases found : items.find? (fun item => !item.isNull) with
  | none =>
    refine .nulls (by simpa using List.find?_eq_none.mp found) ?_
    rw [load, found]
  | some first =>
    have among := List.mem_of_find?_eq_some found
    have notNull := List.find?_some found
    cases first with
    | null => cases notNull
    | text text =>
      refine .texts text among ?_
      rw [load, found]
    | object members =>
      refine .objects members among ?_
      rw [load, found]
      dsimp only
      rw [loadElements_eq]
    | list cells =>
      refine .lists cells among ?_
      rw [load, found]
    | boolean value =>
      refine .numbers _ among rfl (by simp) ?_
      rw [load, found]
    | number value =>
      refine .numbers _ among rfl (by simp) ?_
      rw [load, found]

/-- A list of objects is loaded one object after the other. -/
theorem load_objects {items : List Json} (some : items ≠ [])
    (areObjects : ∀ item ∈ items, item.isObject) :
    load (.list items) = do return .record (← loadItems loadElement 0 items) := by
  cases listReading items with
  | nulls nulls outcome =>
    obtain ⟨item, among⟩ := List.exists_mem_of_ne_nil items some
    obtain ⟨members, rfl⟩ := isObject_iff.mp (areObjects item among)
    cases nulls _ among
  | texts text first outcome => cases areObjects _ first
  | numbers number first numeric notNull outcome =>
    exact absurd (areObjects _ first) (only_isNumeric numeric notNull).2.2.1
  | lists cells first outcome => cases areObjects _ first
  | objects members first outcome => exact outcome

/-- A list is loaded exactly when one of the rules for lists applies.  In each reading the rule that
belongs to it is what the loader asks for, and the first item that is not null rules out the
others. -/
theorem exists_load_list_iff {items : List Json} :
    (∃ value, load (.list items) = .ok value) ↔
      (∀ item ∈ items, item.isNull) ∨ (∀ item ∈ items, item.isText) ∨
        (∀ item ∈ items, item.isNumeric) ∨
        (∀ item ∈ items, item.isObject ∧ ∃ value, load item = .ok value) ∨
        (∃ columns, ∀ item ∈ items, IsRow columns item) ∨
        ∃ columns planes, 0 < columns ∧ ∀ item ∈ items, IsPixelRow columns planes item := by
  cases listReading items with
  | nulls each outcome =>
    rw [outcome]
    exact ⟨fun _ => .inl each, fun _ => ⟨_, rfl⟩⟩
  | texts text first outcome =>
    rw [outcome, exists_bind_pure_iff, exists_loadItems_iff]
    simp only [exists_loadText_iff]
    constructor
    · exact fun each => .inr (.inl each)
    · rintro (each | each | each | each | ⟨_, each⟩ | ⟨_, _, _, each⟩)
      · cases each _ first
      · exact each
      · cases each _ first
      · cases (each _ first).1
      · cases isList_of_isRow (each _ first)
      · cases isList_of_isPixelRow (each _ first)
  | numbers number first numeric notNull outcome =>
    obtain ⟨noNull, noText, noObject, noList⟩ := only_isNumeric numeric notNull
    rw [outcome, exists_bind_pure_iff, exists_loadItems_iff]
    simp only [exists_loadNumber_iff]
    constructor
    · exact fun each => .inr (.inr (.inl each))
    · rintro (each | each | each | each | ⟨_, each⟩ | ⟨_, _, _, each⟩)
      · exact absurd (each _ first) noNull
      · exact absurd (each _ first) noText
      · exact each
      · exact absurd (each _ first).1 noObject
      · exact absurd (isList_of_isRow (each _ first)) noList
      · exact absurd (isList_of_isPixelRow (each _ first)) noList
  | objects members first outcome =>
    rw [outcome, exists_bind_pure_iff, exists_loadItems_iff]
    simp only [exists_loadElement_iff]
    constructor
    · exact fun each => .inr (.inr (.inr (.inl each)))
    · rintro (each | each | each | each | ⟨_, each⟩ | ⟨_, _, _, each⟩)
      · cases each _ first
      · cases each _ first
      · cases each _ first
      · exact each
      · cases isList_of_isRow (each _ first)
      · cases isList_of_isPixelRow (each _ first)
  | lists cells first outcome =>
    rw [outcome, exists_bind_pure_iff, exists_loadMatrix_iff]
    constructor
    · exact fun rule => .inr (.inr (.inr (.inr rule)))
    · rintro (each | each | each | each | rule)
      · cases each _ first
      · cases each _ first
      · cases each _ first
      · cases (each _ first).1
      · exact rule

/-- The loader gets through exactly when the value is convertible. -/
theorem exists_load_iff (json : Json) : (∃ value, load json = .ok value) ↔ Convertible json := by
  induction json using partsInduction with
  | step json ih =>
    cases json with
    | null => exact ⟨fun _ => .null, fun _ => ⟨.absent, by rw [load]⟩⟩
    | boolean value =>
      exact ⟨fun _ => .boolean value, fun _ => ⟨.scalar (ofBoolean value), by rw [load]⟩⟩
    | number value => exact ⟨fun _ => .number value, fun _ => ⟨.scalar value, by rw [load]⟩⟩
    | text value => exact ⟨fun _ => .text value, fun _ => ⟨.text value, by rw [load]⟩⟩
    | object members =>
      rw [exists_load_object_iff, convertible_object_iff]
      exact forall₂_congr fun member among => ih member.2 (List.mem_map_of_mem among)
    | list items =>
      rw [exists_load_list_iff, convertible_list_iff]
      have objects : (∀ item ∈ items, item.isObject = true ∧ ∃ value, load item = .ok value) ↔
          ∀ item ∈ items, item.isObject = true ∧ Convertible item :=
        forall₂_congr fun item among => and_congr_right fun _ => ih item among
      rw [objects]

-- A null may stand among numbers, but not among rows of numbers.
example :
    (load (.list [.null, .number 1])).isOk = true ∧
      (load (.list [.null, .list [.number 1]])).isOk = false := by
  decide +kernel

/-! ## Variables -/

theorem loadVariable_eq_ok_iff {json : Json} {record : Record} :
    loadVariable json = .ok record ↔ load json = .ok (.record record) := by
  rw [loadVariable, bind_eq_ok_iff]
  constructor
  · rintro ⟨value, loaded, isRecord⟩
    cases value with
    | record elements =>
      cases isRecord
      exact loaded
    | _ => cases isRecord
  · intro loaded
    exact ⟨_, loaded, rfl⟩

/-- Only objects and lists of objects become records. -/
theorem exists_loadVariable_iff {json : Json} :
    (∃ record, loadVariable json = .ok record) ↔ IsVariable json := by
  simp only [loadVariable_eq_ok_iff]
  constructor
  · rintro ⟨record, loaded⟩
    cases json with
    | object members => exact .object ((exists_load_iff _).mp ⟨_, loaded⟩)
    | list items =>
      cases listReading items with
      | nulls each outcome =>
        rw [outcome] at loaded
        split at loaded <;> cases loaded
      | texts text first outcome =>
        obtain ⟨texts, _, impossible⟩ := bind_eq_ok_iff.mp (outcome ▸ loaded)
        cases impossible
      | numbers number first numeric notNull outcome =>
        obtain ⟨values, _, impossible⟩ := bind_eq_ok_iff.mp (outcome ▸ loaded)
        cases impossible
      | lists cells first outcome =>
        obtain ⟨matrix, _, impossible⟩ := bind_eq_ok_iff.mp (outcome ▸ loaded)
        cases impossible
      | objects members first outcome =>
        obtain ⟨elements, read, _⟩ := bind_eq_ok_iff.mp (outcome ▸ loaded)
        have each := fun item among =>
          exists_loadElement_iff.mp (exists_loadItems_iff.mp ⟨elements, read⟩ item among)
        exact .objects (List.ne_nil_of_mem first) (fun item among => (each item among).1)
          fun item among => (exists_load_iff item).mp (each item among).2
    | _ =>
      rw [load] at loaded
      cases loaded
  · intro isVariable
    cases isVariable with
    | object convertible =>
      obtain ⟨value, loaded⟩ := (exists_load_iff _).mpr convertible
      obtain ⟨element, _, rfl⟩ := load_object_eq_ok_iff.mp loaded
      exact ⟨_, loaded⟩
    | @objects items some areObjects each =>
      obtain ⟨elements, read⟩ := exists_loadItems_iff.mpr fun item among =>
        exists_loadElement_iff.mpr
          ⟨areObjects item among, (exists_load_iff item).mpr (each item among)⟩
      exact ⟨elements, (load_objects some areObjects).trans
        (bind_eq_ok_iff.mpr ⟨elements, read, rfl⟩)⟩

end Record

namespace Dump

theorem loadVariables_eq_ok_iff {members : List (String × Json)}
    {records : List (String × Record)} :
    loadVariables members = .ok records ↔
      members.map (fun member => (member.1, Record.loadVariable member.2)) =
        records.map fun record => (record.1, .ok record.2) := by
  induction members generalizing records with
  | nil => cases records <;> simp [loadVariables]
  | cons member rest ih =>
    obtain ⟨name, json⟩ := member
    rw [loadVariables, bind_eq_ok_iff, List.map_cons]
    constructor
    · rintro ⟨record, first, others⟩
      obtain ⟨others, loaded, same⟩ := bind_eq_ok_iff.mp others
      cases same
      rw [List.map_cons, mapError_eq_ok_iff.mp first, ih.mp loaded]
    · intro each
      cases records with
      | nil => cases each
      | cons record records =>
        obtain ⟨first, others⟩ := List.cons.inj each
        obtain ⟨sameName, first⟩ := Prod.mk.inj first
        refine ⟨record.2, mapError_eq_ok_iff.mpr first,
          bind_eq_ok_iff.mpr ⟨records, ih.mpr others, ?_⟩⟩
        subst sameName
        rfl

theorem exists_loadVariables_iff {members : List (String × Json)} :
    (∃ records, loadVariables members = .ok records) ↔
      ∀ member ∈ members, member.2.IsVariable := by
  induction members with
  | nil => simp [loadVariables]
  | cons member rest ih =>
    obtain ⟨name, json⟩ := member
    rw [loadVariables, List.forall_mem_cons, ← Record.exists_loadVariable_iff, ← ih]
    constructor
    · rintro ⟨records, loaded⟩
      obtain ⟨record, first, others⟩ := bind_eq_ok_iff.mp loaded
      obtain ⟨others, loaded, _⟩ := bind_eq_ok_iff.mp others
      exact ⟨⟨record, mapError_eq_ok_iff.mp first⟩, others, loaded⟩
    · rintro ⟨⟨record, first⟩, others, loaded⟩
      exact ⟨_, bind_eq_ok_iff.mpr
        ⟨record, mapError_eq_ok_iff.mpr first, bind_eq_ok_iff.mpr ⟨others, loaded, rfl⟩⟩⟩

theorem ofJson_eq_ok_iff {root : Json} {dump : Dump} :
    ofJson root = .ok dump ↔
      ∃ members, root = .object members ∧ loadVariables members = .ok dump.records := by
  cases root with
  | object members =>
    rw [ofJson, bind_eq_ok_iff]
    constructor
    · rintro ⟨records, loaded, same⟩
      cases same
      exact ⟨members, rfl, loaded⟩
    · rintro ⟨_, same, loaded⟩
      cases same
      exact ⟨dump.records, loaded, rfl⟩
  | _ => simp [ofJson]

/-- A value is a dump exactly when it is an object of variables. -/
theorem exists_ofJson_iff {root : Json} :
    (∃ dump, ofJson root = .ok dump) ↔
      ∃ members, root = .object members ∧ ∀ member ∈ members, member.2.IsVariable := by
  simp only [ofJson_eq_ok_iff]
  constructor
  · rintro ⟨dump, members, isObject, loaded⟩
    exact ⟨members, isObject, exists_loadVariables_iff.mp ⟨_, loaded⟩⟩
  · rintro ⟨members, isObject, each⟩
    obtain ⟨records, loaded⟩ := exists_loadVariables_iff.mpr each
    exact ⟨⟨records⟩, members, isObject, loaded⟩

end Dump

end FigureForm
