/-
# What is reported of a malformed dump

`FirstDefect` says which value inside a JSON value cannot be converted, with its address and what is
wrong with it, such that everything on the way that comes before can be.  The rules follow the loader
into objects, lists of objects and lists of numbers; which rule is for a list is decided by its first
item that is not null.  The loader fails exactly as the rules say (`load_eq_error_iff`), and so does
the reading of a whole dump, whose members have to be records besides.

The address that is reported leads to a value inside the dump (`LeadsTo`), and the message begins with
the text of that address.
-/

import FigureForm.Proofs.DumpTable
import FigureForm.Proofs.LoadingFailure

namespace FigureForm

namespace Json

/-! ## Addresses -/

/-- Steps that lead from a value to one inside it. -/
inductive LeadsTo : Json → List Step → Json → Prop
  | here {json : Json} : LeadsTo json [] json
  | member {members : List (String × Json)} {name : String} {inner value : Json}
      {address : List Step} (among : (name, inner) ∈ members) (rest : LeadsTo inner address value) :
      LeadsTo (.object members) (.member name :: address) value
  | item {items : List Json} {index : Nat} {inner value : Json} {address : List Step}
      (there : items[index]? = some inner) (rest : LeadsTo inner address value) :
      LeadsTo (.list items) (.item index :: address) value

/-- The text of an address is the sign of the top and the texts of the steps. -/
theorem addressText_eq (address : List Step) :
    addressText address = "$" ++ String.join (address.map Step.text) := by
  have start (opening : String) : address.foldl (fun text step => text ++ step.text) opening =
      opening ++ String.join (address.map Step.text) := by
    induction address generalizing opening with
    | nil => rw [List.foldl_nil, List.map_nil, String.join_nil, String.append_empty]
    | cons step rest ih =>
      rw [List.foldl_cons, ih, List.map_cons, String.join_cons, String.append_assoc]
  exact start "$"

/-- A misplaced value is where its address leads to. -/
theorem Misplaced.leadsTo {depth : Nat} {json value : Json} {address : List Step} {defect : Defect}
    (misplaced : Misplaced depth json address value defect) : LeadsTo json address value := by
  induction misplaced with
  | number _ => exact .here
  | list _ => exact .here
  | item split _ _ ih => exact .item (getElem?_of_split split) ih

/-! ## The rules -/

/-- The item that decides what a list is: the first that is not null. -/
def opening? (items : List Json) : Option Json :=
  items.find? fun item => !item.isNull

/-- The first value inside a value that cannot be converted, with its address and what is wrong with
it.  What comes before it in the objects and lists on the way can be converted. -/
inductive FirstDefect : Json → List Step → Json → Defect → Prop
  | member {members before after : List (String × Json)} {name : String} {inner value : Json}
      {address : List Step} {defect : Defect} (split : members = before ++ (name, inner) :: after)
      (earlier : ∀ member ∈ before, Convertible member.2)
      (inside : FirstDefect inner address value defect) :
      FirstDefect (.object members) (.member name :: address) value defect
  | notText {items before after : List Json} {text : String} {item : Json}
      (opens : opening? items = some (.text text)) (split : items = before ++ item :: after)
      (earlier : ∀ other ∈ before, other.isText) (notText : ¬ item.isText) :
      FirstDefect (.list items) [.item before.length] item .mixedTexts
  | notObject {items before after : List Json} {members : List (String × Json)} {item : Json}
      (opens : opening? items = some (.object members)) (split : items = before ++ item :: after)
      (earlier : ∀ other ∈ before, other.isObject ∧ Convertible other)
      (notObject : ¬ item.isObject) :
      FirstDefect (.list items) [.item before.length] item .mixedRecords
  | element {items before after : List Json} {members : List (String × Json)} {item value : Json}
      {address : List Step} {defect : Defect}
      (opens : opening? items = some (.object members)) (split : items = before ++ item :: after)
      (earlier : ∀ other ∈ before, other.isObject ∧ Convertible other) (isObject : item.isObject)
      (inside : FirstDefect item address value defect) :
      FirstDefect (.list items) (.item before.length :: address) value defect
  | numbers {items : List Json} {first value : Json} {address : List Step} {defect : Defect}
      (opens : opening? items = some first) (numeric : first.isNumeric)
      (misplaced : Misplaced 1 (.list items) address value defect) :
      FirstDefect (.list items) address value defect
  | rows {items cells : List Json} {value : Json} {address : List Step} {defect : Defect}
      (opens : opening? items = some (.list cells))
      (misplaced : Misplaced (Record.nesting items) (.list items) address value defect) :
      FirstDefect (.list items) address value defect
  | ragged {items cells : List Json} (opens : opening? items = some (.list cells))
      (numbers : Numbers (Record.nesting items) (.list items))
      (noRows : ¬ ∃ columns, ∀ item ∈ items, IsRow columns item)
      (noPixels : ¬ ∃ columns planes, 0 < columns ∧ ∀ item ∈ items, IsPixelRow columns planes item) :
      FirstDefect (.list items) [] (.list items) .ragged

theorem FirstDefect.leadsTo {json value : Json} {address : List Step} {defect : Defect}
    (first : FirstDefect json address value defect) : LeadsTo json address value := by
  induction first with
  | member split _ _ ih =>
    exact .member (mem_of_split split) ih
  | notText _ split _ _ => exact .item (getElem?_of_split split) .here
  | notObject _ split _ _ => exact .item (getElem?_of_split split) .here
  | element _ split _ _ _ ih => exact .item (getElem?_of_split split) ih
  | numbers _ _ misplaced => exact misplaced.leadsTo
  | rows _ misplaced => exact misplaced.leadsTo
  | ragged _ _ _ _ => exact .here

section Rules

variable {address : List Step} {defect : Defect}

theorem firstDefect_object_iff {members : List (String × Json)} :
    (∃ value, FirstDefect (.object members) address value defect) ↔
      FirstWhere (fun member => Convertible member.2)
        (fun _ member => ∃ inner, address = .member member.1 :: inner ∧
          ∃ value, FirstDefect member.2 inner value defect) members := by
  constructor
  · rintro ⟨value, first⟩
    cases first with
    | member split earlier inside =>
      exact ⟨_, (_, _), _, split, earlier, _, rfl, value, inside⟩
  · rintro ⟨before, member, after, split, earlier, inner, rfl, value, inside⟩
    exact ⟨value, .member split earlier inside⟩

variable {items : List Json}

theorem firstDefect_texts_iff {text : String} (opens : opening? items = some (.text text)) :
    (∃ value, FirstDefect (.list items) address value defect) ↔
      FirstWhere (fun item => item.isText)
        (fun place item => ∃ inner, address = .item place :: inner ∧
          ¬ item.isText ∧ inner = [] ∧ defect = .mixedTexts) items := by
  constructor
  · rintro ⟨value, first⟩
    cases first with
    | notText _ split earlier notText => exact ⟨_, _, _, split, earlier, _, rfl, notText, rfl, rfl⟩
    | numbers other numeric _ =>
      cases opens.symm.trans other
      cases numeric
    | _ other => cases opens.symm.trans other
  · rintro ⟨before, item, after, split, earlier, _, rfl, notText, rfl, rfl⟩
    exact ⟨item, .notText opens split earlier notText⟩

theorem firstDefect_objects_iff {members : List (String × Json)}
    (opens : opening? items = some (.object members)) :
    (∃ value, FirstDefect (.list items) address value defect) ↔
      FirstWhere (fun item => item.isObject ∧ Convertible item)
        (fun place item => ∃ inner, address = .item place :: inner ∧
          (¬ item.isObject ∧ inner = [] ∧ defect = .mixedRecords ∨
            item.isObject ∧ ∃ value, FirstDefect item inner value defect)) items := by
  constructor
  · rintro ⟨value, first⟩
    cases first with
    | notObject _ split earlier notObject =>
      exact ⟨_, _, _, split, earlier, _, rfl, .inl ⟨notObject, rfl, rfl⟩⟩
    | element _ split earlier isObject inside =>
      exact ⟨_, _, _, split, earlier, _, rfl, .inr ⟨isObject, value, inside⟩⟩
    | numbers other numeric _ =>
      cases opens.symm.trans other
      cases numeric
    | _ other => cases opens.symm.trans other
  · rintro ⟨before, item, after, split, earlier, inner, rfl, wrong⟩
    obtain ⟨notObject, rfl, rfl⟩ | ⟨isObject, value, inside⟩ := wrong
    · exact ⟨item, .notObject opens split earlier notObject⟩
    · exact ⟨value, .element opens split earlier isObject inside⟩

theorem firstDefect_numbers_iff {first : Json} (opens : opening? items = some first)
    (numeric : first.isNumeric) :
    (∃ value, FirstDefect (.list items) address value defect) ↔
      ∃ value, Misplaced 1 (.list items) address value defect := by
  constructor
  · rintro ⟨value, first⟩
    cases first with
    | numbers _ _ misplaced => exact ⟨value, misplaced⟩
    | _ other =>
      cases opens.symm.trans other
      cases numeric
  · rintro ⟨value, misplaced⟩
    exact ⟨value, .numbers opens numeric misplaced⟩

theorem firstDefect_rows_iff {cells : List Json} (opens : opening? items = some (.list cells)) :
    (∃ value, FirstDefect (.list items) address value defect) ↔
      (∃ value, Misplaced (Record.nesting items) (.list items) address value defect) ∨
        Numbers (Record.nesting items) (.list items) ∧
          (¬ ∃ matrix, Record.loadMatrix items = .ok matrix) ∧ address = [] ∧ defect = .ragged := by
  rw [Record.exists_loadMatrix_iff, not_or]
  constructor
  · rintro ⟨value, first⟩
    cases first with
    | rows _ misplaced => exact .inl ⟨value, misplaced⟩
    | ragged _ numbers noRows noPixels => exact .inr ⟨numbers, ⟨noRows, noPixels⟩, rfl, rfl⟩
    | numbers other numeric _ =>
      cases opens.symm.trans other
      cases numeric
    | _ other => cases opens.symm.trans other
  · rintro (⟨value, misplaced⟩ | ⟨numbers, ⟨noRows, noPixels⟩, rfl, rfl⟩)
    · exact ⟨value, .rows opens misplaced⟩
    · exact ⟨_, .ragged opens numbers noRows noPixels⟩

end Rules

end Json

namespace Record

open Json

/-! ## The loader reports the first defect -/

theorem loadText_eq_error_iff {json : Json} {address : List Step} {defect : Defect} :
    loadText json = .error ⟨address, defect⟩ ↔
      ¬ json.isText ∧ address = [] ∧ defect = .mixedTexts := by
  cases json <;> simp [loadText, reject, isText, eq_comm]

theorem loadElement_eq_error_iff {json : Json} {address : List Step} {defect : Defect} :
    loadElement json = .error ⟨address, defect⟩ ↔
      ¬ json.isObject ∧ address = [] ∧ defect = .mixedRecords ∨
        json.isObject ∧ load json = .error ⟨address, defect⟩ := by
  cases json with
  | object members =>
    rw [loadElement, load, bind_pure_eq_error_iff]
    simp [isObject]
  | _ => simp [loadElement, reject, isObject, eq_comm]

/-- The loader fails with the first defect. -/
theorem load_eq_error_iff (json : Json) (address : List Step) (defect : Defect) :
    load json = .error ⟨address, defect⟩ ↔ ∃ value, FirstDefect json address value defect := by
  induction json using partsInduction generalizing address with
  | step json ih =>
    cases json with
    | object members =>
      rw [load, bind_pure_eq_error_iff, loadMembers_eq_error_iff, firstDefect_object_iff]
      refine firstWhere_congr (fun member _ => exists_load_iff member.2) fun _ member among => ?_
      exact exists_congr fun inner => and_congr_right fun _ =>
        ih member.2 (List.mem_map_of_mem among) inner
    | list items =>
      -- The first item that is not null decides which rule speaks about the list.
      cases opens : opening? items with
      | none =>
        unfold opening? at opens
        rw [load, opens]
        constructor
        · intro impossible
          cases impossible
        · rintro ⟨value, first⟩
          cases first <;> cases opens.symm.trans ‹opening? items = some _›
      | some first =>
        have decided := opens
        unfold opening? at decided
        cases first with
        | text text =>
          rw [load, decided, firstDefect_texts_iff opens]
          simp only [bind_pure_eq_error_iff, loadItems_eq_error_iff, exists_loadText_iff,
            loadText_eq_error_iff, Nat.zero_add]
        | object members =>
          rw [load, decided, firstDefect_objects_iff opens]
          simp only [loadElements_eq, bind_pure_eq_error_iff, loadItems_eq_error_iff,
            exists_loadElement_iff, exists_load_iff, loadElement_eq_error_iff, Nat.zero_add]
          refine firstWhere_congr (fun _ _ => Iff.rfl) fun place item among => ?_
          exact exists_congr fun inner => and_congr_right fun _ => or_congr_right
            (and_congr_right fun _ => ih item among inner)
        | list cells =>
          rw [load, decided, firstDefect_rows_iff opens, ← loadMatrix_eq_error_iff]
          exact bind_pure_eq_error_iff
        | null => cases List.find?_some decided
        | boolean truth =>
          rw [load, decided, firstDefect_numbers_iff opens rfl]
          exact bind_pure_eq_error_iff.trans (readsNumbers_loadNumber.list.error (.list items) _ _)
        | number number =>
          rw [load, decided, firstDefect_numbers_iff opens rfl]
          exact bind_pure_eq_error_iff.trans (readsNumbers_loadNumber.list.error (.list items) _ _)
    | _ =>
      rw [load]
      constructor
      · intro impossible
        cases impossible
      · rintro ⟨value, first⟩
        cases first

/-- A variable fails like any value, or else because it is no record. -/
theorem loadVariable_eq_error_iff {json : Json} {address : List Step} {defect : Defect} :
    loadVariable json = .error ⟨address, defect⟩ ↔
      (∃ value, FirstDefect json address value defect) ∨
        Convertible json ∧ ¬ IsVariable json ∧ ∃ content, Represents json content ∧
          address = [] ∧ defect = .variableNotRecord content.kindName := by
  rw [loadVariable, bind_eq_error_iff, load_eq_error_iff]
  apply or_congr_right
  have isVariable_of_record {record : Record} (loaded : load json = .ok (.record record)) :
      IsVariable json :=
    exists_loadVariable_iff.mp ⟨record, loadVariable_eq_ok_iff.mpr loaded⟩
  constructor
  · rintro ⟨content, loaded, failed⟩
    have convertible := (exists_load_iff json).mp ⟨content, loaded⟩
    have represents := represents_of_load loaded
    cases content with
    | record record => cases failed
    | _ =>
      cases failed
      refine ⟨convertible, fun isVariable => ?_, _, represents, rfl, rfl⟩
      obtain ⟨record, again⟩ := exists_loadVariable_iff.mpr isVariable
      cases loaded.symm.trans (loadVariable_eq_ok_iff.mp again)
  · rintro ⟨convertible, notVariable, content, represents, rfl, rfl⟩
    obtain ⟨loaded, isLoaded⟩ := (exists_load_iff json).mpr convertible
    obtain rfl | ⟨record, _, rfl, -, -⟩ := (represents_of_load isLoaded).unique represents
    · refine ⟨loaded, isLoaded, ?_⟩
      cases loaded with
      | record record => exact absurd (isVariable_of_record isLoaded) notVariable
      | _ => rfl
    · exact absurd (isVariable_of_record isLoaded) notVariable

end Record

/-! ## Whole dumps -/

namespace Dump

/-- The first value that keeps a value from being a dump. -/
inductive FirstDefect : Json → List Json.Step → Json → Defect → Prop
  | notObject {root : Json} (notObject : ¬ root.isObject) : FirstDefect root [] root .topNotObject
  | notRecord {members before after : List (String × Json)} {name : String} {json : Json}
      {content : FieldValue} (split : members = before ++ (name, json) :: after)
      (earlier : ∀ member ∈ before, member.2.IsVariable) (convertible : json.Convertible)
      (notVariable : ¬ json.IsVariable) (represents : json.Represents content) :
      FirstDefect (.object members) [.member name] json (.variableNotRecord content.kindName)
  | inside {members before after : List (String × Json)} {name : String} {json value : Json}
      {address : List Json.Step} {defect : Defect}
      (split : members = before ++ (name, json) :: after)
      (earlier : ∀ member ∈ before, member.2.IsVariable)
      (inside : json.FirstDefect address value defect) :
      FirstDefect (.object members) (.member name :: address) value defect

theorem FirstDefect.leadsTo {root value : Json} {address : List Json.Step} {defect : Defect}
    (first : FirstDefect root address value defect) : root.LeadsTo address value := by
  cases first with
  | notObject _ => exact .here
  | notRecord split _ _ _ _ =>
    exact .member (mem_of_split split) .here
  | inside split _ inside =>
    exact .member (mem_of_split split) inside.leadsTo

theorem firstDefect_object_iff {members : List (String × Json)} {address : List Json.Step}
    {defect : Defect} :
    (∃ value, FirstDefect (.object members) address value defect) ↔
      FirstWhere (fun member => member.2.IsVariable)
        (fun _ member => ∃ inner, address = .member member.1 :: inner ∧
          ((∃ value, member.2.FirstDefect inner value defect) ∨
            member.2.Convertible ∧ ¬ member.2.IsVariable ∧ ∃ content, member.2.Represents content ∧
              inner = [] ∧ defect = .variableNotRecord content.kindName)) members := by
  constructor
  · rintro ⟨value, first⟩
    cases first with
    | notObject notObject => exact absurd rfl notObject
    | notRecord split earlier convertible notVariable represents =>
      exact ⟨_, (_, _), _, split, earlier, _, rfl,
        .inr ⟨convertible, notVariable, _, represents, rfl, rfl⟩⟩
    | inside split earlier inside =>
      exact ⟨_, (_, _), _, split, earlier, _, rfl, .inl ⟨value, inside⟩⟩
  · rintro ⟨before, member, after, split, earlier, inner, rfl, inside | notRecord⟩
    · obtain ⟨value, inside⟩ := inside
      exact ⟨value, .inside split earlier inside⟩
    · obtain ⟨convertible, notVariable, content, represents, rfl, rfl⟩ := notRecord
      exact ⟨member.2, .notRecord split earlier convertible notVariable represents⟩

/-- A value is refused as a dump exactly with its first defect. -/
theorem ofJson_eq_error_iff {root : Json} {address : List Json.Step} {defect : Defect} :
    ofJson root = .error ⟨address, defect⟩ ↔ ∃ value, FirstDefect root address value defect := by
  cases root with
  | object members =>
    rw [ofJson, bind_pure_eq_error_iff, loadVariables_eq_error_iff, firstDefect_object_iff]
    exact firstWhere_congr (fun _ _ => Record.exists_loadVariable_iff) fun _ _ _ =>
      exists_congr fun _ => and_congr_right fun _ => Record.loadVariable_eq_error_iff
  | _ =>
    constructor
    · intro failed
      cases failed
      exact ⟨_, .notObject (by simp [Json.isObject])⟩
    · rintro ⟨value, first⟩
      cases first
      rfl

/-- A malformed dump is reported at the first place where it is malformed.  A value is refused with
an address and a defect exactly when the address leads to a value in it that has the defect, while
everything on the way that comes before can be converted, at the top to records.  The message shows
the address as the sign of the top followed by the names and indices on the way. -/
theorem ofJson_reports_first_defect (root : Json) (malformed : Malformed) :
    (ofJson root = .error malformed ↔
      ∃ value, root.LeadsTo malformed.address value ∧
        FirstDefect root malformed.address value malformed.defect) ∧
    malformed.message = "Malformed record at '" ++
      ("$" ++ String.join (malformed.address.map Json.Step.text)) ++ "': " ++
        malformed.defect.message := by
  refine ⟨?_, congrArg (fun text => "Malformed record at '" ++ text ++ "': " ++ _)
    (Json.addressText_eq malformed.address)⟩
  constructor
  · intro failed
    obtain ⟨value, first⟩ := ofJson_eq_error_iff.mp failed
    exact ⟨value, first.leadsTo, first⟩
  · rintro ⟨value, -, first⟩
    exact ofJson_eq_error_iff.mpr ⟨value, first⟩

example :
    ofJson (.object [("v", .object [("String", .list [.text "a", .number 1])])]) =
      .error ⟨[.member "v", .member "String", .item 1], .mixedTexts⟩ := by
  cbv

end Dump

end FigureForm
