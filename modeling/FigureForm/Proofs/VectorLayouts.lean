/-
# Layouts of vectors

A position or a color may stand in a dump as a flat list of numbers, as one row or as one column.
The first is loaded as a vector and the others as matrices, but they are the same once they are
flat, and so are whole dumps that differ in such layouts (`map_flattened_ofJson`).

The relation is between JSON values.  Rows and columns nest lists one level deeper than flat lists
do, which only the reader of texts counts.
-/

import FigureForm.Proofs.DumpGrammar
import FigureForm.Proofs.FlatVectors
import FigureForm.Record.Dump

namespace FigureForm

/-- How the entries of a vector are laid out. -/
inductive VectorLayout
  | flat
  | row
  | column
  deriving DecidableEq, Repr

/-- Entries in a layout. -/
def VectorLayout.arrange (entries : List Json) : VectorLayout → Json
  | flat => .list entries
  | row => .list [.list entries]
  | column => .list (entries.map fun entry => .list [entry])

namespace Json

mutual

/-- Whether two values differ only in the layouts of positions and colors somewhere inside. -/
inductive SameVectors : Json → Json → Prop
  | same (json : Json) : SameVectors json json
  | list {items others : List Json} (each : List.Forall₂ SameVectors items others) :
      SameVectors (.list items) (.list others)
  | object {members others : List (String × Json)} (each : List.Forall₂ SameMember members others) :
      SameVectors (.object members) (.object others)

/-- Whether two members differ only in the layouts of positions and colors, either inside or because
they are such vectors themselves. -/
inductive SameMember : String × Json → String × Json → Prop
  | inside (name : String) {json other : Json} (same : SameVectors json other) :
      SameMember (name, json) (name, other)
  | vector {name : String} (named : name ∈ vectorFields) {entries : List Json} (some : entries ≠ [])
      (numeric : ∀ entry ∈ entries, entry.isNumeric) (first second : VectorLayout) :
      SameMember (name, first.arrange entries) (name, second.arrange entries)

end

/-- Whether two dumps differ only in the layouts of positions and colors inside their variables. -/
inductive SameDumps : Json → Json → Prop
  | same (json : Json) : SameDumps json json
  | object {members others : List (String × Json)}
      (each : List.Forall₂ (fun member other => member.1 = other.1 ∧ SameVectors member.2 other.2)
        members others) : SameDumps (.object members) (.object others)

end Json

namespace Record

open Json

/-! ## Every layout is loaded as the same vector -/

/-- A matrix of one row or of one column is flat. -/
theorem flattened_of_line {rows : List (List Float)} {columns : Nat} (even : EvenRows columns rows)
    (line : rows.length = 1 ∨ columns = 1) {name : String} (named : name ∈ vectorFields) :
    Element.valueFlattened name (.matrix (Matrix.ofEvenRows even)) = .vector rows.flatten := by
  have entries : (Matrix.ofEvenRows even).toVector? = some rows.flatten := by
    rw [Matrix.toVector?, if_pos ⟨rfl, line⟩]
    rfl
  rw [Element.valueFlattened_of_not_record rfl, if_pos named, FieldValue.flat, entries]

/-- Rows of one length are loaded as their matrix. -/
theorem load_of_rows {items : List Json} (some : items ≠ []) {columns : Nat}
    (areRows : ∀ item ∈ items, IsRow columns item) {rows : List (List Float)}
    (loaded : loadItems (loadList loadNumber) 0 items = .ok rows)
    (even : EvenRows (Matrix.firstColumns rows) rows) :
    load (.list items) = .ok (.matrix (Matrix.ofEvenRows even)) := by
  have answer := (loadMatrix_of_rows (hasPixels_of_rows areRows)).mpr
    ⟨rows, loaded, Matrix.ofRows?_of_even even⟩
  cases items with
  | nil => exact absurd rfl some
  | cons item rest =>
    obtain ⟨cells, rfl, -⟩ := areRows item List.mem_cons_self
    rw [load, List.find?_cons_of_pos rfl]
    dsimp only
    rw [answer]
    rfl

section

variable {entries : List Json} {values : List Float} (some : entries ≠ [])
  (numeric : ∀ entry ∈ entries, entry.isNumeric)
  (loaded : loadItems loadNumber 0 entries = .ok values)
include some numeric loaded

theorem load_flat : load (.list entries) = .ok (.vector values) := by
  cases listReading entries with
  | nulls each outcome =>
    have answers : entries.map loadNumber = (entries.map fun _ => notANumber).map .ok := by
      rw [List.map_map]
      refine List.map_congr_left fun entry among => ?_
      rw [isNull_iff.mp (each entry among)]
      rfl
    rw [loadItems_eq_ok_iff.mpr answers] at loaded
    rw [outcome, if_neg (by simpa using some), Except.ok.inj loaded]
  | texts text first outcome => cases numeric _ first
  | numbers number first isNumber notNull outcome =>
    rw [outcome, loaded]
    rfl
  | objects members first outcome => cases numeric _ first
  | lists cells first outcome => cases numeric _ first

omit some in
theorem load_row :
    ∃ even : EvenRows (Matrix.firstColumns [values]) [values],
      load (.list [.list entries]) = .ok (.matrix (Matrix.ofEvenRows even)) := by
  have areRows : ∀ item ∈ [Json.list entries], IsRow entries.length item :=
    List.forall_mem_singleton.mpr ⟨entries, rfl, rfl, numeric⟩
  have rows : loadItems (loadList loadNumber) 0 [.list entries] = .ok [values] :=
    loadItems_eq_ok_iff.mpr (congrArg (fun row => [row]) loaded)
  have even : EvenRows (Matrix.firstColumns [values]) [values] :=
    List.forall_mem_singleton.mpr rfl
  exact ⟨even, load_of_rows (List.cons_ne_nil _ _) areRows rows even⟩

theorem load_column :
    ∃ even : EvenRows (Matrix.firstColumns (values.map fun value => [value]))
        (values.map fun value => [value]),
      load (.list (entries.map fun entry => .list [entry])) =
        .ok (.matrix (Matrix.ofEvenRows even)) := by
  have areRows : ∀ item ∈ entries.map fun entry => Json.list [entry], IsRow 1 item := by
    intro item among
    obtain ⟨entry, within, rfl⟩ := List.mem_map.mp among
    exact ⟨[entry], rfl, rfl, List.forall_mem_singleton.mpr (numeric entry within)⟩
  have single (entry : Json) : loadList loadNumber (.list [entry]) =
      (below (.item 0) (loadNumber entry)).map fun value => [value] := by
    rw [loadList, loadItems]
    cases loadNumber entry <;> rfl
  have rows : loadItems (loadList loadNumber) 0 (entries.map fun entry => .list [entry]) =
      .ok (values.map fun value => [value]) := by
    have each := congrArg (List.map fun number => (below (.item 0) number).map fun value => [value])
      (loadItems_eq_ok_iff.mp loaded)
    rw [List.map_map, List.map_map] at each
    apply loadItems_eq_ok_iff.mpr
    rw [List.map_map, List.map_map]
    exact (List.map_congr_left fun entry _ => single entry).trans each
  have even : EvenRows 1 (values.map fun value => [value]) := by
    intro row among
    obtain ⟨value, -, rfl⟩ := List.mem_map.mp among
    rfl
  exact ⟨Matrix.even_firstColumns even,
    load_of_rows (by simpa using some) areRows rows (Matrix.even_firstColumns even)⟩

/-- In every layout, a position or a color is the same flat vector. -/
theorem flattened_load_arrange {name : String} (named : name ∈ vectorFields)
    (layout : VectorLayout) :
    (load (layout.arrange entries)).map (Element.valueFlattened name) = .ok (.vector values) := by
  cases layout with
  | flat =>
    rw [VectorLayout.arrange, load_flat some numeric loaded, Except.map,
      Element.valueFlattened_of_not_record rfl, if_pos named, FieldValue.flat]
    intro matrix impossible
    cases impossible
  | row =>
    obtain ⟨even, answer⟩ := load_row numeric loaded
    rw [VectorLayout.arrange, answer, Except.map, flattened_of_line even (.inl rfl) named,
      List.flatten_singleton]
  | column =>
    obtain ⟨even, answer⟩ := load_column some numeric loaded
    have line : Matrix.firstColumns (values.map fun value => [value]) = 1 := by
      have length := length_of_loadItems loaded
      cases values with
      | nil => exact absurd (List.length_eq_zero_iff.mp length.symm) some
      | cons first rest => rfl
    rw [VectorLayout.arrange, answer, Except.map, flattened_of_line even (.inr line) named,
      ← List.flatMap_def, List.flatMap_singleton']

end

/-! ## Lists whose items correspond -/

theorem any_congr {α : Type} {test : α → Bool} {items others : List α}
    (each : List.Forall₂ (fun item other => test item = test other) items others) :
    items.any test = others.any test := by
  induction each with
  | nil => rfl
  | cons first _ ih => rw [List.any_cons, List.any_cons, first, ih]

/-- The first of a sort corresponds to the first of that sort. -/
theorem rel_find? {α : Type} {related : α → α → Prop} {chosen : α → Bool}
    (stays : ∀ item other, related item other → chosen item = chosen other) {items others : List α}
    (each : List.Forall₂ related items others) :
    Option.Rel related (items.find? chosen) (others.find? chosen) := by
  induction each with
  | nil => exact .none
  | @cons item other _ _ first _ ih =>
    have same := stays item other first
    by_cases isChosen : chosen item = true
    · rw [List.find?_cons_of_pos isChosen, List.find?_cons_of_pos (same ▸ isChosen)]
      exact .some first
    · rw [List.find?_cons_of_neg isChosen, List.find?_cons_of_neg (same ▸ isChosen)]
      exact ih

section Items

variable {α β : Type} {load : Json → Loaded α} {change : α → β} {items others : List Json}

theorem map_below_congr {step : Step} {first second : Loaded α}
    (same : first.map change = second.map change) :
    (below step first).map change = (below step second).map change := by
  rw [below, below, map_mapError, map_mapError, same]

/-- Lists give the same up to a change of values, if their items do. -/
theorem map_loadItems_congr
    (each : List.Forall₂ (fun item other => (load item).map change = (load other).map change)
      items others) (index : Nat) :
    (loadItems load index items).map (List.map change) =
      (loadItems load index others).map (List.map change) := by
  induction each generalizing index with
  | nil => rfl
  | cons first _ ih =>
    rw [loadItems, loadItems]
    refine map_bind_congr (map_below_congr first) fun value twin sameValue => ?_
    refine map_bind_congr (ih (index + 1)) fun values twins sameValues => ?_
    exact congrArg Except.ok (congrArg₂ List.cons sameValue sameValues)

theorem loadItems_congr
    (each : List.Forall₂ (fun item other => load item = load other) items others) (index : Nat) :
    loadItems load index items = loadItems load index others := by
  have same : (loadItems load index items).map (List.map id) =
      (loadItems load index others).map (List.map id) :=
    map_loadItems_congr (each.imp fun item other same => congrArg (Except.map id) same) index
  simpa only [List.map_id_fun, Except.map_id, id_eq] using same

theorem loadList_congr (inner : ∀ item other, SameVectors item other → load item = load other)
    (json other : Json) (same : SameVectors json other) :
    loadList load json = loadList load other := by
  cases same with
  | same => rfl
  | list each => exact loadItems_congr (each.imp inner) 0
  | object each => rfl

end Items

/-! ## Parts that differ in layouts -/

theorem loadText_congr (json other : Json) (same : SameVectors json other) :
    loadText json = loadText other := by
  cases same <;> rfl

theorem loadNumber_congr (json other : Json) (same : SameVectors json other) :
    loadNumber json = loadNumber other := by
  cases same <;> rfl

theorem isNull_congr (json other : Json) (same : SameVectors json other) :
    json.isNull = other.isNull := by
  cases same <;> rfl

theorem isList_congr (json other : Json) (same : SameVectors json other) :
    json.isList = other.isList := by
  cases same <;> rfl

section

variable {items others : List Json} (each : List.Forall₂ SameVectors items others)
include each

theorem hasPixels_congr : hasPixels items = hasPixels others := by
  refine any_congr (each.imp fun row other same => ?_)
  cases same with
  | same => rfl
  | list cells => exact any_congr (cells.imp isList_congr)
  | object each => rfl

theorem loadMatrix_congr : loadMatrix items = loadMatrix others := by
  rw [loadMatrix, hasPixels_congr each,
    loadItems_congr (each.imp (loadList_congr loadNumber_congr)) 0,
    loadItems_congr (each.imp (loadList_congr (loadList_congr loadNumber_congr))) 0, loadMatrix]

end

/-- Members with the same names give the same flat element, if their values are the same flat
fields. -/
theorem flattened_loadMembers_congr {members others : List (String × Json)}
    (each : List.Forall₂ (fun member other => member.1 = other.1 ∧
      (load member.2).map (Element.valueFlattened member.1) =
        (load other.2).map (Element.valueFlattened member.1)) members others)
    {start twin : Element} (same : start.flattened = twin.flattened) :
    (loadMembers start members).map Element.flattened =
      (loadMembers twin others).map Element.flattened := by
  induction each generalizing start twin with
  | nil =>
    rw [loadMembers, loadMembers]
    exact congrArg Except.ok same
  | @cons member other _ _ both _ ih =>
    obtain ⟨name, json⟩ := member
    obtain ⟨_, other⟩ := other
    obtain ⟨rfl, first⟩ := both
    rw [loadMembers, loadMembers]
    refine map_bind_congr (map_below_congr first) fun value twin sameValue => ih ?_
    rw [Element.flattened_set, Element.flattened_set, same, sameValue]

/-- Whether two values are loaded alike once they are flat, as the value of any field and as an element
in a list of objects. -/
structure LoadedAlike (json other : Json) : Prop where
  value : ∀ name,
    (load json).map (Element.valueFlattened name) = (load other).map (Element.valueFlattened name)
  element : (loadElement json).map Element.flattened = (loadElement other).map Element.flattened

/-- Values that differ only in the layouts of positions and colors are the same once they are flat.
The induction is on the values inside the first; the vectors themselves are the members that
`flattened_load_arrange` is about. -/
theorem loadedAlike_of_sameVectors (json : Json) :
    ∀ other, SameVectors json other → LoadedAlike json other := by
  induction json using partsInduction with
  | step json ih =>
    intro other same
    cases same with
    | same => exact ⟨fun _ => rfl, rfl⟩
    | @object members others each =>
      have element : (loadMembers Element.empty members).map Element.flattened =
          (loadMembers Element.empty others).map Element.flattened := by
        refine flattened_loadMembers_congr ?_ rfl
        have within := (List.forall₂_and_left _ _).mpr ⟨fun member among => among, each⟩
        refine within.imp fun member other both => ?_
        obtain ⟨among, same⟩ := both
        cases same with
        | inside name same =>
          exact ⟨rfl, (ih _ (List.mem_map_of_mem among) _ same).value name⟩
        | vector named some numeric first second =>
          obtain ⟨values, loaded⟩ := exists_loadItems_iff.mpr fun entry within =>
            exists_loadNumber_iff.mpr (numeric entry within)
          exact ⟨rfl, (flattened_load_arrange some numeric loaded named first).trans
            (flattened_load_arrange some numeric loaded named second).symm⟩
      refine ⟨fun name => ?_, element⟩
      rw [load, load]
      refine map_bind_congr element fun own twin sameElement => congrArg Except.ok ?_
      rw [Element.valueFlattened_record, Element.valueFlattened_record, List.map_singleton,
        List.map_singleton, sameElement]
    | @list items others each =>
      refine ⟨fun name => ?_, rfl⟩
      have empty : items.isEmpty = others.isEmpty := by
        cases each <;> rfl
      have nulls : (items.map fun _ => notANumber) = others.map fun _ => notANumber := by
        rw [List.map_const', List.map_const', each.length_eq]
      have texts := loadItems_congr (each.imp loadText_congr) 0
      have numbers := loadItems_congr (each.imp loadNumber_congr) 0
      have objects : (do return .record (← loadElements 0 items) : Loaded FieldValue).map
            (Element.valueFlattened name) =
          (do return .record (← loadElements 0 others) : Loaded FieldValue).map
            (Element.valueFlattened name) := by
        have within := (List.forall₂_and_left _ _).mpr ⟨ih, each⟩
        rw [loadElements_eq, loadElements_eq]
        refine map_bind_congr (map_loadItems_congr (within.imp fun item other both =>
          (both.1 other both.2).element) 0) fun own twin same => congrArg Except.ok ?_
        rw [Element.valueFlattened_record, Element.valueFlattened_record, same]
      -- The loader decides after the first items that are not null, which correspond.
      have first : Option.Rel SameVectors (items.find? fun item => !item.isNull)
          (others.find? fun item => !item.isNull) :=
        rel_find? (fun item other same => congrArg not (isNull_congr item other same)) each
      rw [load, load, texts, numbers, loadMatrix_congr each, empty, nulls]
      generalize items.find? (fun item => !item.isNull) = decisive at first ⊢
      generalize others.find? (fun item => !item.isNull) = twin at first ⊢
      cases first with
      | none => rfl
      | @some first _ same =>
        cases same with
        | same =>
          cases first with
          | object members => exact objects
          | _ => rfl
        | list inner => rfl
        | object inner => exact objects

/-- Flat values outside the three fields show whether they are records, and what else they are. -/
theorem map_loadVariable_congr {json other : Json} (same : SameVectors json other) :
    (loadVariable json).map (List.map Element.flattened) =
      (loadVariable other).map (List.map Element.flattened) := by
  refine map_bind_congr ((loadedAlike_of_sameVectors json other same).value "")
    fun value twin alike => ?_
  have records := congrArg FieldValue.record? alike
  rw [Element.record?_valueFlattened, Element.record?_valueFlattened] at records
  cases found : value.record? with
  | none =>
    have notFound : twin.record? = none := by
      rw [found] at records
      exact Option.map_eq_none_iff.mp records.symm
    rw [Element.valueFlattened_of_not_record found, if_neg (by decide),
      Element.valueFlattened_of_not_record notFound, if_neg (by decide)] at alike
    rw [alike]
  | some elements =>
    rw [found] at records
    obtain ⟨others, isRecord, sameElements⟩ := Option.map_eq_some_iff.mp records.symm
    cases value with
    | record _ =>
      cases twin with
      | record _ =>
        cases found
        cases isRecord
        exact congrArg Except.ok sameElements.symm
      | _ => cases isRecord
    | _ => cases found

end Record

namespace Dump

open Json

theorem map_loadVariables_congr {members others : List (String × Json)}
    (each : List.Forall₂ (fun member other => member.1 = other.1 ∧ SameVectors member.2 other.2)
      members others) :
    (loadVariables members).map (List.map fun (name, record) => (name, record.map Element.flattened)) =
      (loadVariables others).map
        (List.map fun (name, record) => (name, record.map Element.flattened)) := by
  induction each with
  | nil => rfl
  | @cons member other _ _ both _ ih =>
    obtain ⟨name, json⟩ := member
    obtain ⟨_, other⟩ := other
    obtain ⟨rfl, same⟩ := both
    rw [loadVariables, loadVariables]
    refine map_bind_congr (Record.map_below_congr (Record.map_loadVariable_congr same))
      fun record twin sameRecord => ?_
    refine map_bind_congr ih fun records twins sameRecords => congrArg Except.ok ?_
    exact congrArg₂ List.cons (congrArg (Prod.mk name) sameRecord) sameRecords

/-- Dumps that differ only in layouts are the same once they are flat. -/
theorem map_flattened_ofJson {json other : Json} (same : SameDumps json other) :
    (ofJson json).map flattened = (ofJson other).map flattened := by
  cases same with
  | same => rfl
  | object each =>
    rw [ofJson, ofJson]
    refine map_bind_congr (map_loadVariables_congr each) fun records twins sameRecords => ?_
    exact congrArg (fun records => Except.ok (Dump.mk records)) sameRecords

end Dump

namespace Figure

/-- Positions and colors mean the same in every layout.  Two dumps that differ only in whether
positions and colors, at any depth, are flat lists, rows or columns are both refused for the same
reason, or lead to the same form with the same remarks or to the same fault. -/
theorem formOf_of_sameDumps {json other : Json} (same : Json.SameDumps json other)
    (options : FormOptions) :
    (Dump.ofJson json).map (formOf options) = (Dump.ofJson other).map (formOf options) := by
  have through (loaded : Except Malformed Dump) :
      loaded.map (formOf options) = (loaded.map Dump.flattened).map (formOf options) := by
    cases loaded with
    | error malformed => rfl
    | ok dump => exact congrArg Except.ok (formOf_flattened options dump).symm
  rw [through, Dump.map_flattened_ofJson same, ← through]

/-- A dump of a window with a color that has a null, and of a button on it, with layouts for the
position of the window, its color and the position of the button. -/
def laidOutDump (window color button : VectorLayout) : Json :=
  .object [("hgS_070000", .object
    [("properties", .object
      [("Position", window.arrange [.number 10, .number 20, .number 300, .number 200]),
        ("Color", color.arrange [.null, .boolean true, .number 0])]),
      ("children", .list [.object
        [("type", .text "uicontrol"),
          ("properties", .object
            [("Position", button.arrange [.number 1, .number 2, .number 30, .number 40])])]])])]

theorem sameDumps_laidOutDump (window color button window' color' button' : VectorLayout) :
    Json.SameDumps (laidOutDump window color button) (laidOutDump window' color' button') := by
  have type : Json.SameMember ("type", .text "uicontrol") ("type", .text "uicontrol") :=
    .inside _ (.same _)
  have position {numbers : List Json} (some : numbers ≠ [])
      (numeric : ∀ number ∈ numbers, number.isNumeric) (first second : VectorLayout) :
      Json.SameMember ("Position", first.arrange numbers) ("Position", second.arrange numbers) :=
    .vector (by decide) some numeric first second
  have color := Json.SameMember.vector (show "Color" ∈ vectorFields by decide)
    (List.cons_ne_nil .null [.boolean true, .number 0]) (by decide) color color'
  have placed := position (List.cons_ne_nil (.number 1) [.number 2, .number 30, .number 40])
    (by decide) button button'
  have placedWindow :=
    position (List.cons_ne_nil (.number 10) [.number 20, .number 300, .number 200]) (by decide)
      window window'
  have button := Json.SameVectors.object (.cons type (.cons
    (.inside "properties" (.object (.cons placed .nil))) .nil))
  exact .object (.cons ⟨rfl, .object (.cons
    (.inside "properties" (.object (.cons placedWindow (.cons color .nil))))
    (.cons (.inside "children" (.list (.cons button .nil))) .nil))⟩ .nil)

theorem formOf_of_sameDumps_laidOut :
    Json.SameDumps (laidOutDump .flat .flat .flat) (laidOutDump .row .column .column) ∧
      (Dump.ofJson (laidOutDump .flat .flat .flat)).map (formOf usualOptions) =
        (Dump.ofJson (laidOutDump .row .column .column)).map (formOf usualOptions) ∧
      ((Dump.ofJson (laidOutDump .row .column .column)).toOption.map fun dump =>
        (formOf usualOptions dump).isOk) = some true := by
  have same := sameDumps_laidOutDump .flat .flat .flat .row .column .column
  refine ⟨same, formOf_of_sameDumps same usualOptions, ?_⟩
  decide +kernel

end Figure

end FigureForm
