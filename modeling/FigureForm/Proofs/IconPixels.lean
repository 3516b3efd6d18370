/-
# The pixels of icons

An icon is given in the text of a dump as rows of cells of three numbers.  On the way to the image
the numbers are stored plane after plane and then looked up again for each pixel, row by row.  Here
every pixel is traced back to the cell at its row and column, for images of all sizes, and whatever
else is given as an icon is shown to leave an image without pixels.
-/

import FigureForm.Proofs.Components
import FigureForm.Proofs.DumpNavigation

namespace FigureForm

theorem Raster.pixel?_ofColors {width height : Nat} (color : Nat → Nat → Pixel) {x y : Nat}
    (inWidth : x < width) (inHeight : y < height) :
    (ofColors width height color).pixel? x y = some (color x y) := by
  have column : (y * width + x) % width = x := Nat.mul_add_mod_of_lt inWidth
  have row : (y * width + x) / width = y := by
    rw [Nat.add_comm, Nat.add_mul_div_right _ _ (Nat.zero_lt_of_lt inWidth),
      Nat.div_eq_of_lt inWidth, Nat.zero_add]
  have inside : y * width + x < width * height := by
    rw [Nat.mul_comm width]
    exact Matrix.rowByRow_lt inHeight inWidth
  rw [pixel?, if_pos ⟨inWidth, inHeight⟩, ofColors, Array.getElem?_ofFn, dif_pos inside]
  dsimp only
  rw [column, row]

namespace Json

/-- The number at a row, a column and a plane of rows of cells. -/
def channel? (image : Json) (row column plane : Nat) : Option Float :=
  (((image.item? row).bind (·.item? column)).bind (·.item? plane)).bind number?

/-- Whether a value is an image: rows of one length of cells of three numbers, with at least one row
and one column and with fewer of each than an icon cannot have. -/
structure IsImage (rows columns : Nat) (image : Json) : Prop where
  cells : ∃ items, image = .list items ∧ items.length = rows ∧
    ∀ item ∈ items, IsPixelRow columns 3 item
  someRows : 1 ≤ rows
  someColumns : 1 ≤ columns
  fewRows : rows < 0x100000000
  fewColumns : columns < 0x100000000

/-- An item of a list that is long enough. -/
theorem exists_item? {items : List Json} {index : Nat} (inside : index < items.length) :
    ∃ item ∈ items, (list items).item? index = some item :=
  ⟨items[index], List.getElem_mem inside, List.getElem?_eq_getElem inside⟩

/-- There is a number at every place of an image. -/
theorem IsImage.exists_channel? {rows columns : Nat} {image : Json}
    (isImage : IsImage rows columns image) {row column : Nat} (inRows : row < rows)
    (inColumns : column < columns) (plane : Nat) (inPlanes : plane < 3) :
    ∃ value, image.channel? row column plane = some value := by
  obtain ⟨items, rfl, rfl, even⟩ := isImage.cells
  obtain ⟨item, among, isItem⟩ := exists_item? inRows
  obtain ⟨cells, rfl, rfl, each⟩ := even item among
  obtain ⟨cell, inRow, isCell⟩ := exists_item? inColumns
  obtain ⟨entries, rfl, three, numeric⟩ := each cell inRow
  obtain ⟨entry, inCell, isEntry⟩ := exists_item? (three ▸ inPlanes)
  rw [channel?, isItem, Option.bind_some, isCell, Option.bind_some, isEntry, Option.bind_some]
  exact Option.isSome_iff_exists.mp (numeric entry inCell)

/-- For an image the table gives the matrix of its numbers. -/
theorem IsImage.matrix {rows columns : Nat} {image : Json} (isImage : IsImage rows columns image)
    {value : FieldValue} (represents : Represents image value) :
    ∃ matrix, value = .matrix matrix ∧ matrix.rows = rows ∧ matrix.columns = columns ∧
      matrix.planes = 3 ∧
      ∀ row column plane, matrix.get? row column plane = image.channel? row column plane := by
  obtain ⟨items, rfl, rfl, even⟩ := isImage.cells
  obtain ⟨item, among⟩ := List.exists_mem_of_length_pos isImage.someRows
  have pixelRow : IsPixelRow columns 3 item := even item among
  have sorts := represents.itemSort among
  rw [itemSort_of_isList (isList_of_isPixelRow pixelRow)] at sorts
  cases represents with
  | rows _ _ _ otherEven _ =>
    exact absurd (otherEven item among) (not_isRow_of_isPixelRow isImage.someColumns pixelRow)
  | @pixels _ matrix _ rows _ otherEven entries =>
    obtain ⟨sameColumns, three⟩ :=
      length_of_pixelRows isImage.someColumns pixelRow (otherEven item among)
    exact ⟨matrix, rfl, rows, sameColumns.symm, three.symm, entries⟩
  | _ => cases sorts

/-- Only for an image, the table gives a matrix with three planes that is not too large. -/
theorem isImage_of_matrix {image : Json} {matrix : Matrix}
    (represents : Represents image (.matrix matrix)) (three : matrix.planes = 3)
    (fewRows : matrix.rows < 0x100000000) (fewColumns : matrix.columns < 0x100000000) :
    IsImage matrix.rows matrix.columns image := by
  cases represents with
  | rows _ _ one _ _ =>
    rw [one] at three
    cases three
  | @pixels items _ some rows columns even _ =>
    refine ⟨⟨items, rfl, rows.symm, three ▸ even⟩, ?_, columns, fewRows, fewColumns⟩
    rw [rows]
    exact List.length_pos_iff.mpr some

end Json

/-- Whether an icon shows an image: it is as wide as the image has columns and as high as it has
rows, and at every column and row it has the color of the three numbers there, or no color if one of
them is not a number. -/
structure Raster.Shows (icon : Raster) (rows columns : Nat) (image : Json) : Prop where
  width : icon.width = columns
  height : icon.height = rows
  pixel : ∀ row < rows, ∀ column < columns, ∃ red green blue : Float,
    image.channel? row column 0 = some red ∧ image.channel? row column 1 = some green ∧
    image.channel? row column 2 = some blue ∧
    icon.pixel? column row =
      some (if red.isNaN || green.isNaN || blue.isNaN then ⟨0, 0, 0, 0⟩
        else ⟨Color.channel red, Color.channel green, Color.channel blue, 255⟩)

namespace Icon

open Json (IsImage Represents)

/-- The icon of a field that was loaded from an image. -/
theorem ofField_of_isImage {rows columns : Nat} {image : Json} {value : FieldValue}
    (isImage : IsImage rows columns image) (represents : Represents image value) :
    ∃ icon, ofField value = .ok icon ∧ icon.Shows rows columns image := by
  obtain ⟨matrix, rfl, sameRows, sameColumns, three, entries⟩ := isImage.matrix represents
  have few : ¬ (sideLimit ≤ matrix.columns ∨ sideLimit ≤ matrix.rows) := by
    have fewRows := isImage.fewRows
    have fewColumns := isImage.fewColumns
    rw [sameRows, sameColumns, sideLimit]
    omega
  refine ⟨_, by rw [ofField, ofMatrix, if_neg (not_not_intro three), if_neg few], sameColumns,
    sameRows, ?_⟩
  intro row inRows column inColumns
  obtain ⟨red, isRed⟩ := isImage.exists_channel? inRows inColumns 0 (by decide)
  obtain ⟨green, isGreen⟩ := isImage.exists_channel? inRows inColumns 1 (by decide)
  obtain ⟨blue, isBlue⟩ := isImage.exists_channel? inRows inColumns 2 (by decide)
  refine ⟨red, green, blue, isRed, isGreen, isBlue, ?_⟩
  rw [Raster.pixel?_ofColors _ (sameColumns ▸ inColumns) (sameRows ▸ inRows), pixelAt, entries,
    entries, entries, isRed, isGreen, isBlue]
  rfl

/-- A field that was loaded from anything else holds no icon, unless it is absent. -/
theorem ofField_of_not_isImage {image : Json} {value : FieldValue}
    (noImage : ∀ rows columns, ¬ IsImage rows columns image) (represents : Represents image value)
    (present : value ≠ .absent) : ∃ fault, ofField value = .error fault := by
  cases value with
  | absent => exact absurd rfl present
  | matrix matrix =>
    rw [ofField, ofMatrix]
    split
    next => exact ⟨_, rfl⟩
    next three =>
      split
      next => exact ⟨_, rfl⟩
      next few =>
        have few := not_or.mp few
        exact absurd (Json.isImage_of_matrix represents (Decidable.not_not.mp three)
          (Nat.lt_of_not_le few.2) (Nat.lt_of_not_le few.1)) (noImage _ _)
  | _ => exact ⟨_, rfl⟩

end Icon

theorem FieldValue.record?_eq_some_iff {value : FieldValue} {elements : Record} :
    value.record? = some elements ↔ value = .record elements := by
  cases value <;> simp [record?]

namespace Dump

/-- A variable of a dump was loaded from the member at its place. -/
theorem load_of_getElem? {members : List (String × Json)} {dump : Dump}
    (loaded : ofJson (.object members) = .ok dump) {index : Nat} {name other : String} {json : Json}
    {record : Record} (inText : members[index]? = some (name, json))
    (inDump : dump.records[index]? = some (other, record)) :
    Record.load json = .ok (.record record) := by
  obtain ⟨_, same, loaded⟩ := ofJson_eq_ok_iff.mp loaded
  cases same
  have here := congrArg (·[index]?) (loadVariables_eq_ok_iff.mp loaded)
  simp only [List.getElem?_map, inText, inDump, Option.map_some] at here
  obtain ⟨-, read⟩ := Prod.mk.inj (Option.some.inj here)
  exact Record.loadVariable_eq_ok_iff.mp read

end Dump

namespace Figure

open Json (IsImage Represents)

theorem follow_of_properties? {value : FieldValue} {hops : List Hop} {tools : Record} {index : Nat}
    {properties : Element} (reached : value.follow hops = .record tools)
    (described : properties? (tools.element index) = some properties) (name : String) :
    value.follow (hops ++ [⟨"properties", index⟩, ⟨name, 0⟩]) = properties.field name := by
  obtain ⟨inner, isRecord, rfl⟩ := Option.map_eq_some_iff.mp described
  have isRecord : (tools.element index).field "properties" = .record inner :=
    FieldValue.record?_eq_some_iff.mp isRecord
  rw [FieldValue.follow, List.foldl_append]
  show ((value.follow hops).hop _).hop _ = _
  rw [reached]
  show FieldValue.hop ((tools.element index).field "properties") _ = _
  rw [isRecord]
  rfl

theorem actionOf_of_properties? {tool properties : Element}
    (toggles : tool.text? "type" = some toggleToolType)
    (described : properties? tool = some properties) (place : Place) :
    actionOf place tool =
      ⟨some ⟨properties.textOrEmpty "Tag", properties.textOrEmpty "TooltipString",
          (iconOf place (properties.textOrEmpty "Tag") properties).value⟩,
        (iconOf place (properties.textOrEmpty "Tag") properties).notes⟩ := by
  rw [actionOf, if_pos toggles, described]
  show Noted.mk _ (_ ++ []) = _
  rw [List.append_nil]
  rfl

/-- Beyond the last entry there is none that could be a toggle tool. -/
theorem lt_length_of_toggles {tools : Record} {index : Nat}
    (toggles : (tools.element index).text? "type" = some toggleToolType) :
    index < tools.length := by
  apply Nat.lt_of_not_le
  intro beyond
  rw [Record.element, List.getElem?_eq_none beyond] at toggles
  cases toggles

/-- The action of an entry stands in the tool bar between those of the entries in front of it and
behind it, and so do the remarks on it. -/
theorem actionsOf_split {tools : Record} {index : Nat} (inside : index < tools.length)
    (toolbar : Place) :
    actionsOf toolbar 0 tools =
      ⟨(actionsOf toolbar 0 (tools.take index)).value ++
          ((actionOf (toolbar.child index) (tools.element index)).value.toList ++
            (actionsOf toolbar (index + 1) (tools.drop (index + 1))).value),
        (actionsOf toolbar 0 (tools.take index)).notes ++
          ((actionOf (toolbar.child index) (tools.element index)).notes ++
            (actionsOf toolbar (index + 1) (tools.drop (index + 1))).notes)⟩ := by
  have entry : tools.element index = tools[index] := by
    rw [Record.element, List.getElem?_eq_getElem inside]
    rfl
  have parts : tools = tools.take index ++ tools[index] :: tools.drop (index + 1) := by
    rw [← List.drop_eq_getElem_cons inside, List.take_append_drop]
  have start : 0 + (tools.take index).length = index := by
    rw [Nat.zero_add, List.length_take_of_le (Nat.le_of_lt inside)]
  have behind : actionsOf toolbar index (tools[index] :: tools.drop (index + 1)) =
      ⟨(actionOf (toolbar.child index) tools[index]).value.toList ++
          (actionsOf toolbar (index + 1) (tools.drop (index + 1))).value,
        (actionOf (toolbar.child index) tools[index]).notes ++
          (actionsOf toolbar (index + 1) (tools.drop (index + 1))).notes⟩ := by
    rw [actionsOf]
    show Noted.mk _ (_ ++ (_ ++ [])) = _
    rw [List.append_nil]
    rfl
  calc actionsOf toolbar 0 tools
      = actionsOf toolbar 0 (tools.take index ++ tools[index] :: tools.drop (index + 1)) :=
        congrArg _ parts
    _ = _ := by rw [actionsOf_append, start, behind, entry]

/-- The icon of a toggle tool in a loaded dump.  The tool may stand in any record that hops from a
variable lead to.  If the text has an image as its `CData`, the icon shows that image; otherwise the
icon has no pixels, and this is remarked on unless the field is absent. -/
theorem actionOf_shows_image {members : List (String × Json)} {dump : Dump}
    (loaded : Dump.ofJson (.object members) = .ok dump) {position : Nat} {name : String}
    {json : Json} {record : Record} (inText : members[position]? = some (name, json))
    (inDump : dump.records[position]? = some (name, record)) {hops : List Hop} {tools : Record}
    (reached : (FieldValue.record record).follow hops = .record tools) {index : Nat}
    {properties : Element}
    (toggles : (tools.element index).text? "type" = some toggleToolType)
    (described : properties? (tools.element index) = some properties) (toolbar : Place) :
    ∃ (action : Action) (notes : List Diagnostic),
      actionOf (toolbar.child index) (tools.element index) = ⟨some action, notes⟩ ∧
      actionsOf toolbar 0 tools =
        ⟨(actionsOf toolbar 0 (tools.take index)).value ++
            action :: (actionsOf toolbar (index + 1) (tools.drop (index + 1))).value,
          (actionsOf toolbar 0 (tools.take index)).notes ++
            (notes ++ (actionsOf toolbar (index + 1) (tools.drop (index + 1))).notes)⟩ ∧
      (∀ image rows columns,
        json.follow? (hops ++ [⟨"properties", index⟩, ⟨"CData", 0⟩]) = some image →
          IsImage rows columns image → action.icon.Shows rows columns image ∧ notes = []) ∧
      ((∀ image rows columns,
        json.follow? (hops ++ [⟨"properties", index⟩, ⟨"CData", 0⟩]) = some image →
          ¬ IsImage rows columns image) →
        action.icon.width = 0 ∧ action.icon.height = 0 ∧
        (properties.field "CData" = .absent → notes = []) ∧
        (properties.field "CData" ≠ .absent → ∃ reason,
          notes = [.malformedIcon (toolbar.child index) action.name reason])) := by
  have answer := actionOf_of_properties? toggles described (toolbar.child index)
  have split := actionsOf_split (lt_length_of_toggles toggles) toolbar
  have source := Record.loadedFrom_follow (Dump.load_of_getElem? loaded inText inDump)
    (hops ++ [⟨"properties", index⟩, ⟨"CData", 0⟩])
  rw [follow_of_properties? reached described] at source
  rw [answer] at split
  refine ⟨_, _, answer, split, ?_, ?_⟩
  · intro image rows columns found isImage
    rw [found] at source
    obtain ⟨icon, isIcon, shows⟩ :=
      Icon.ofField_of_isImage isImage (Record.represents_of_load source)
    rw [iconOf, isIcon]
    exact ⟨shows, rfl⟩
  · intro noImage
    rw [iconOf]
    by_cases absent : properties.field "CData" = .absent
    · rw [absent]
      exact ⟨rfl, rfl, fun _ => rfl, fun present => absurd rfl present⟩
    · cases found : json.follow? (hops ++ [⟨"properties", index⟩, ⟨"CData", 0⟩]) with
      | none =>
        rw [found] at source
        exact absurd source absent
      | some image =>
        rw [found] at source
        obtain ⟨fault, isFault⟩ := Icon.ofField_of_not_isImage
          (fun rows columns => noImage image rows columns found)
          (Record.represents_of_load source) absent
        rw [isFault]
        exact ⟨rfl, rfl, fun isAbsent => absurd isAbsent absent, fun _ => ⟨fault.message, rfl⟩⟩

/-- Two rows of three cells, one of which has no color. -/
def someImage : Json :=
  .list [
    .list [
      .list [.number 1, .number 0, .number 0],
      .list [.number 0, .boolean true, .number 0],
      .list [.number 0, .number 0, .number 1]],
    .list [
      .list [.number 0.5, .null, .number 0.5],
      .list [.number 0.5, .number 0.5, .number 0.5],
      .list [.boolean false, .number 2, .number (-1)]]]

theorem isImage_someImage : IsImage 2 3 someImage := by
  refine ⟨⟨_, rfl, rfl, ?_⟩, by decide, by decide, by decide, by decide⟩
  simp only [List.forall_mem_cons, List.not_mem_nil, false_imp_iff, implies_true, and_true]
  exact ⟨Record.isPixelRow_iff.mpr ⟨_, rfl, rfl, by simp⟩,
    Record.isPixelRow_iff.mpr ⟨_, rfl, rfl, by simp⟩⟩

/-- A figure with a tool bar that has one entry, which shows the image. -/
def someFigure : Json :=
  .object [("children", .object [("type", .text "uitoolbar"), ("children",
    .object [("type", .text "uitoggletool"), ("properties",
      .object [("CData", someImage), ("Tag", .text "open")])])])]

/-- The entry of the tool bar has an icon of three columns and two rows that shows the image, whose
first pixel in the second row has no color. -/
theorem actionOf_shows_someImage :
    ∃ (dump : Dump) (record tools : Record) (action : Action),
      Dump.ofJson (.object [("figure", someFigure)]) = .ok dump ∧
      dump.records[0]? = some ("figure", record) ∧
      (FieldValue.record record).follow [⟨"children", 0⟩, ⟨"children", 0⟩] = .record tools ∧
      actionOf ((Place.top "tools").child 0) (tools.element 0) = ⟨some action, []⟩ ∧
      action.icon.Shows 2 3 someImage ∧ action.icon.pixel? 0 1 = some ⟨0, 0, 0, 0⟩ := by
  have facts : ((Dump.ofJson (.object [("figure", someFigure)])).toOption.bind fun dump =>
      dump.records[0]?).map (fun named => (named.1,
        ((FieldValue.record named.2).follow [⟨"children", 0⟩, ⟨"children", 0⟩]).record?.map
          fun tools : Record =>
            ((tools.element 0).text? "type", (properties? (tools.element 0)).isSome))) =
      some ("figure", some (some toggleToolType, true)) := by
    decide +kernel
  obtain ⟨⟨name, record⟩, found, same⟩ := Option.map_eq_some_iff.mp facts
  obtain ⟨dump, isAnswer, inDump⟩ := Option.bind_eq_some_iff.mp found
  have loaded := eq_ok_of_toOption isAnswer
  obtain ⟨rfl, entry⟩ := Prod.mk.inj same
  obtain ⟨tools, reached, entry⟩ := Option.map_eq_some_iff.mp entry
  obtain ⟨toggles, described⟩ := Prod.mk.inj entry
  obtain ⟨properties, described⟩ := Option.isSome_iff_exists.mp described
  have reached := FieldValue.record?_eq_some_iff.mp reached
  have inText : [("figure", someFigure)][0]? = some ("figure", someFigure) := rfl
  obtain ⟨action, notes, answer, -, shown, -⟩ := actionOf_shows_image loaded inText inDump reached
    toggles described (Place.top "tools")
  obtain ⟨shows, rfl⟩ := shown someImage 2 3 rfl isImage_someImage
  refine ⟨dump, record, tools, action, loaded, inDump, reached, answer, shows, ?_⟩
  obtain ⟨red, green, blue, -, isGreen, -, pixel⟩ := shows.pixel 1 (by decide) 0 (by decide)
  have noGreen : green.isNaN = true := by
    rw [← Option.some.inj isGreen]
    decide
  rw [pixel, noGreen, Bool.or_true, Bool.true_or]
  rfl

end Figure

end FigureForm
