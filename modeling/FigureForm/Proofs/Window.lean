/-
# From a root to its form

A dump with a usable root is read once into a `Root`, and everything that `formOf` answers is said of
it: the widgets built directly inside the window, sorted by the loop into frames, tool bars and
others (`ofNodes_eq`), and the form with its remarks.  `formOf_eq_ok_iff` and
`formOf_eq_overflow_iff` say when a dump has a form and when building one overflows; all other dumps
have one of three faults (`isRoot_or_fault`).
-/

import FigureForm.Figure.Window
import FigureForm.Proofs.Components
import FigureForm.Proofs.EnclosureOverflow

namespace FigureForm

namespace WidgetNode

/-- Whether a widget is a tool bar. -/
def isToolBar (node : WidgetNode) : Bool :=
  node.kind == .toolBar

/-- Whether a widget may come to lie inside a frame. -/
def isLoose (node : WidgetNode) : Bool :=
  node.kind != .frame && node.kind != .toolBar

theorem isLoose_iff {node : WidgetNode} :
    node.isLoose = true ↔ node.kind ≠ .frame ∧ node.kind ≠ .toolBar := by
  simp [isLoose]

end WidgetNode

namespace Figure

/-- The remark on each tool bar that the next one replaces. -/
def replacementsAmong (toolbars : List WidgetNode) : List Diagnostic :=
  (toolbars.zip toolbars.tail).map fun (replaced, next) =>
    .duplicateToolbar replaced.tag next.tag

namespace Sorting

open WidgetNode

theorem add_of_frame {sorting : Sorting} {node : WidgetNode} (isFrame : node.kind = .frame) :
    sorting.add node = { sorting with frames := sorting.frames ++ [node] } := by
  rw [add, isFrame]

theorem add_of_toolBar {sorting : Sorting} {node : WidgetNode} (isToolBar : node.kind = .toolBar) :
    sorting.add node =
      { sorting with
        toolbar := some node
        replacements := sorting.replacements ++
          (sorting.toolbar.map fun replaced =>
            Diagnostic.duplicateToolbar replaced.tag node.tag).toList } := by
  rw [add, isToolBar]

theorem add_of_loose {sorting : Sorting} {node : WidgetNode} (notFrame : node.kind ≠ .frame)
    (notToolBar : node.kind ≠ .toolBar) :
    sorting.add node = { sorting with others := sorting.others ++ [node] } := by
  rw [add]
  split
  next isFrame => exact absurd isFrame notFrame
  next isToolBar => exact absurd isToolBar notToolBar
  next => rfl

/-- What the loop makes of further widgets.  The tool bar so far stands in front of the tool bars
among them, and each but the last is replaced by the next. -/
theorem foldl_add (sorting : Sorting) (nodes : List WidgetNode) :
    nodes.foldl add sorting =
      { frames := sorting.frames ++ nodes.filter isFrame
        others := sorting.others ++ nodes.filter isLoose
        toolbar := (sorting.toolbar.toList ++ nodes.filter isToolBar).getLast?
        replacements := sorting.replacements ++
          replacementsAmong (sorting.toolbar.toList ++ nodes.filter isToolBar) } := by
  induction nodes generalizing sorting with
  | nil =>
    obtain ⟨frames, others, toolbar, replacements⟩ := sorting
    cases toolbar <;> simp [replacementsAmong]
  | cons node rest ih =>
    rw [List.foldl_cons, ih]
    by_cases frame : node.kind = .frame
    · rw [add_of_frame frame]
      simp [isFrame, isLoose, isToolBar, frame]
    · by_cases toolBar : node.kind = .toolBar
      · rw [add_of_toolBar toolBar]
        cases before : sorting.toolbar <;>
          simp [isFrame, isLoose, isToolBar, toolBar, replacementsAmong]
      · have loose : isLoose node = true := by
          simp [isLoose, frame, toolBar]
        rw [add_of_loose frame toolBar, List.filter_cons_of_pos loose]
        simp [isFrame, isToolBar, frame, toolBar]

/-- Sorted widgets are those of each sort in their order; the last tool bar stays. -/
theorem ofNodes_eq (nodes : List WidgetNode) :
    ofNodes nodes =
      { frames := nodes.filter isFrame
        others := nodes.filter isLoose
        toolbar := (nodes.filter isToolBar).getLast?
        replacements := replacementsAmong (nodes.filter isToolBar) } :=
  foldl_add start nodes

end Sorting

/-- A variable that describes a window. -/
structure Root where
  name : String
  record : Record
  properties : Element
  position : Position

/-- Whether a form is made of a root: it is the last variable with the wanted opening, and it has
properties and a position. -/
structure IsRoot (options : FormOptions) (dump : Dump) (root : Root) : Prop where
  found : dump.root? options.opening = some (root.name, root.record)
  hasProperties : properties? root.record.first = some root.properties
  hasPosition : positionOf? root.properties = some root.position

namespace Root

variable (root : Root) (options : FormOptions)

/-- The remark on the word for the unit of the window, if it is no unit. -/
def unitRemarks : List Diagnostic :=
  let word := root.properties.textOrEmpty "Units"
  if (LengthUnit.ofWord? word).isNone ∧ word ≠ "" then [.unknownUnits (.top "properties") word]
  else []

/-- The rectangle of the window. -/
def window : Rectangle :=
  windowOf root.position (scaleOf options.metrics root.properties)

/-- The components directly inside the window. -/
def components : Record :=
  root.record.first.children

/-- What becomes of the component at an index directly inside the window. -/
def answer (index : Nat) : Noted (Option WidgetNode) :=
  widgetOf options.metrics (root.window options).height ((Place.top "children").child index)
    (root.components.element index)

/-- The widgets built directly inside the window, in order. -/
def nodes : List WidgetNode :=
  (List.range root.components.length).flatMap fun index =>
    (root.answer options index).value.toList

/-- The remarks made in building them, in order. -/
def remarks : List Diagnostic :=
  (List.range root.components.length).flatMap fun index =>
    (root.answer options index).notes

/-- The frames among the widgets. -/
def frames : List WidgetNode :=
  (root.nodes options).filter WidgetNode.isFrame

/-- The tool bars among the widgets. -/
def toolbars : List WidgetNode :=
  (root.nodes options).filter WidgetNode.isToolBar

/-- The widgets that may come to lie inside a frame. -/
def others : List WidgetNode :=
  (root.nodes options).filter WidgetNode.isLoose

/-- The remark on a window without a color. -/
def colorRemarks : List Diagnostic :=
  if (colorOf? root.properties "Color").isNone then [.missingWindowColor] else []

/-- The form with these top-level widgets. -/
def formWith (widgets : List WidgetNode) : Form where
  title := root.properties.textOrEmpty "Name"
  tag := root.properties.textOrEmpty "Tag"
  background := colorOf? root.properties "Color"
  menuBar := root.properties.text? "MenuBar" != some noMenuBar
  font := options.font
  geometry := root.window options
  widgets
  toolbar := (root.toolbars options).getLast?

/-- Everything that is remarked on, in order. -/
def allRemarks : List Diagnostic :=
  root.unitRemarks ++ root.remarks options ++ root.colorRemarks ++
    replacementsAmong (root.toolbars options)

end Root

variable {options : FormOptions} {dump : Dump} {root : Root}

theorem formOf_of_rootless (missing : dump.root? options.opening = none) :
    formOf options dump = .error (.rootNotFound options.opening) := by
  rw [formOf, missing]

section

variable {name : String} {record : Record} (found : dump.root? options.opening = some (name, record))
include found

theorem formOf_of_bareRoot (missing : properties? record.first = none) :
    formOf options dump = .error (.missingRootProperties name) := by
  rw [formOf, found]
  dsimp only
  rw [missing]

theorem formOf_of_unplacedRoot {properties : Element}
    (hasProperties : properties? record.first = some properties)
    (missing : positionOf? properties = none) :
    formOf options dump = .error (.missingRootPosition name) := by
  rw [formOf, found]
  dsimp only
  rw [hasProperties]
  dsimp only
  rw [missing]

end

/-- What is built of the components directly inside the window. -/
theorem Root.widgetsOf_components (root : Root) (options : FormOptions) :
    widgetsOf options.metrics (root.window options).height (.top "children") 0 root.components =
      ⟨root.nodes options, root.remarks options⟩ := by
  rw [widgetsOf_eq]
  simp only [Nat.zero_add]
  rfl

/-- Past a usable root only enclosure can fail. -/
theorem formOf_of_isRoot (isRoot : IsRoot options dump root) :
    formOf options dump =
      match enclose (root.frames options) (root.others options) with
      | .error cause => .error (.overflow cause)
      | .ok widgets => .ok ⟨root.formWith options widgets, root.allRemarks options⟩ := by
  have unit : unitOf (.top "properties") root.properties =
      ⟨(LengthUnit.ofWord? (root.properties.textOrEmpty "Units")).getD .pixels,
        root.unitRemarks⟩ :=
    unitOf_eq _ _
  have window : windowOf root.position
      (((LengthUnit.ofWord? (root.properties.textOrEmpty "Units")).getD .pixels).scale
        options.metrics) = root.window options :=
    rfl
  rw [formOf, isRoot.found]
  dsimp only
  rw [isRoot.hasProperties]
  dsimp only
  rw [isRoot.hasPosition]
  dsimp only
  rw [unit]
  dsimp only
  rw [window, show (root.record.first.record? "children").getD [] = root.components from rfl,
    root.widgetsOf_components, Sorting.ofNodes_eq]
  rfl

/-- What the variables of a dump are to a form: there is no root, or one without properties or
without a position, or a usable one. -/
inductive RootReading (options : FormOptions) (dump : Dump) : Prop
  | rootless (missing : dump.root? options.opening = none)
  | bare (name : String) (record : Record)
      (found : dump.root? options.opening = some (name, record))
      (missing : properties? record.first = none)
  | unplaced (name : String) (record : Record)
      (found : dump.root? options.opening = some (name, record)) (properties : Element)
      (hasProperties : properties? record.first = some properties)
      (missing : positionOf? properties = none)
  | usable (root : Root) (isRoot : IsRoot options dump root)

theorem rootReading (options : FormOptions) (dump : Dump) : RootReading options dump := by
  cases found : dump.root? options.opening with
  | none => exact .rootless found
  | some variableFound =>
    obtain ⟨name, record⟩ := variableFound
    cases hasProperties : properties? record.first with
    | none => exact .bare name record found hasProperties
    | some properties =>
      cases hasPosition : positionOf? properties with
      | none => exact .unplaced name record found properties hasProperties hasPosition
      | some position =>
        exact .usable ⟨name, record, properties, position⟩ ⟨found, hasProperties, hasPosition⟩

/-- Without a usable root there is one of three faults. -/
theorem isRoot_or_fault (options : FormOptions) (dump : Dump) :
    (∃ root, IsRoot options dump root) ∨
      formOf options dump = .error (.rootNotFound options.opening) ∨
      (∃ name, formOf options dump = .error (.missingRootProperties name)) ∨
      ∃ name, formOf options dump = .error (.missingRootPosition name) := by
  cases rootReading options dump with
  | rootless missing => exact .inr (.inl (formOf_of_rootless missing))
  | bare name record found missing =>
    exact .inr (.inr (.inl ⟨name, formOf_of_bareRoot found missing⟩))
  | unplaced name record found properties hasProperties missing =>
    exact .inr (.inr (.inr ⟨name, formOf_of_unplacedRoot found hasProperties missing⟩))
  | usable root isRoot => exact .inl ⟨root, isRoot⟩

/-- A dump has a form exactly when its root is usable and enclosure overflows nowhere. -/
theorem formOf_eq_ok_iff {answer : Noted Form} :
    formOf options dump = .ok answer ↔
      ∃ root, IsRoot options dump root ∧
        (∀ node ∈ root.others options, Fits (root.frames options) node) ∧
        answer = ⟨root.formWith options (enclosed (root.frames options) (root.others options)),
          root.allRemarks options⟩ := by
  constructor
  · intro built
    obtain ⟨root, isRoot⟩ | fault | ⟨name, fault⟩ | ⟨name, fault⟩ := isRoot_or_fault options dump
    · refine ⟨root, isRoot, ?_⟩
      rw [formOf_of_isRoot isRoot] at built
      cases walk : enclose (root.frames options) (root.others options) with
      | error cause =>
        rw [walk] at built
        cases built
      | ok widgets =>
        obtain ⟨fits, rfl⟩ := enclose_eq_ok_iff.mp walk
        rw [walk] at built
        exact ⟨fits, (Except.ok.inj built).symm⟩
    all_goals
      rw [fault] at built
      cases built
  · rintro ⟨root, isRoot, fits, rfl⟩
    rw [formOf_of_isRoot isRoot, enclose_eq_ok_iff.mpr ⟨fits, rfl⟩]

/-- Building a form overflows exactly when the root is usable and enclosure overflows somewhere. -/
theorem formOf_eq_overflow_iff :
    (∃ cause, formOf options dump = .error (.overflow cause)) ↔
      ∃ root, IsRoot options dump root ∧
        ∃ node ∈ root.others options, ¬ Fits (root.frames options) node := by
  constructor
  · rintro ⟨cause, failed⟩
    obtain ⟨root, isRoot⟩ | fault | ⟨name, fault⟩ | ⟨name, fault⟩ := isRoot_or_fault options dump
    · refine ⟨root, isRoot, ?_⟩
      apply Classical.byContradiction
      intro nowhere
      have fits : ∀ node ∈ root.others options, Fits (root.frames options) node := by
        intro node member
        apply Classical.byContradiction
        exact fun overflows => nowhere ⟨node, member, overflows⟩
      rw [formOf_eq_ok_iff.mpr ⟨root, isRoot, fits, rfl⟩] at failed
      cases failed
    all_goals
      rw [fault] at failed
      cases failed
  · rintro ⟨root, isRoot, node, member, overflows⟩
    cases walk : enclose (root.frames options) (root.others options) with
    | ok widgets => exact absurd (fits_of_enclose walk node member) overflows
    | error cause =>
      refine ⟨cause, ?_⟩
      rw [formOf_of_isRoot isRoot, walk]

/-! ## Windows to try statements on -/

/-- A component with a tag and a position in pixels. -/
def placedComponent (type tag : String) (position : List Float) : Element :=
  .ofFields
    [("properties", .record [.ofFields [("Position", .vector position), ("Tag", .text tag)]]),
      ("type", .text type)]

/-- The properties of a window of a usual size with a word for the unit. -/
def windowProperties (unit : String) : Element :=
  .ofFields [("Position", .vector [100, 100, 400, 300]), ("Units", .text unit)]

/-- A window with these components. -/
def windowRoot (unit : String) (components : Record) : Root where
  name := "hgS_070000"
  record := [.ofFields
    [("children", .record components), ("properties", .record [windowProperties unit])]]
  properties := windowProperties unit
  position := ⟨100, 100, 400, 300⟩

/-- A dump whose only variable is a window. -/
def windowDump (unit : String) (components : Record) : Dump :=
  ⟨[("hgS_070000", (windowRoot unit components).record)]⟩

/-- The usual options. -/
def usualOptions : FormOptions :=
  ⟨.standard, ⟨6, 13⟩, standardOpening⟩

/-- What keeps a dump from having a form. -/
def fault? (answer : Except FormFault (Noted Form)) : Option FormFault :=
  match answer with
  | .ok _ => none
  | .error fault => some fault

theorem fault?_eq_some_iff {answer : Except FormFault (Noted Form)} {fault : FormFault} :
    fault? answer = some fault ↔ answer = .error fault := by
  cases answer with
  | ok form => simp [fault?]
  | error cause => simp [fault?]

theorem isRoot_windowRoot (unit : String) (components : Record) :
    IsRoot usualOptions (windowDump unit components) (windowRoot unit components) where
  found := rfl
  hasProperties := rfl
  hasPosition := rfl

end Figure

end FigureForm
