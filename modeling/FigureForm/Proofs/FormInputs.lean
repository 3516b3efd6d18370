/-
# What a form depends on

A form is made of the selected root, and of its elements only the first; of the properties of the
window and of the components below it only some fields are read.  The font of a form and its measures
matter in two places: the form names the font, and positions in characters are scaled by the
measures.  Both statements follow from one about two dumps whose roots are alike
(`formOf_eq_of_alike`): the same form up to the font, with the same remarks, or the same fault.
-/

import FigureForm.Proofs.Alike

namespace FigureForm

/-- A form that names another font. -/
def Form.withFont (font : FontSpec) (form : Form) : Form :=
  { form with font }

/-- A value changed, with the same remarks. -/
def Noted.mapValue {α β : Type} (change : α → β) (noted : Noted α) : Noted β :=
  ⟨change noted.value, noted.notes⟩

namespace Figure

/-- The fields that are read of a window's properties. -/
def windowFields : List String :=
  ["Position", "Units", "Name", "Tag", "MenuBar", "Color"]

/-- Whether two windows have the same values in the fields that are read, and alike components. -/
structure WindowsAlike (first second : Element) : Prop where
  properties : PropertiesAgree windowFields first second
  children : List.Forall₂ Alike first.children second.children

theorem WindowsAlike.refl (window : Element) : WindowsAlike window window :=
  ⟨.refl windowFields window, List.forall₂_same.mpr fun component _ => .refl component⟩

/-- Two roots of one name whose windows are alike, read with fonts that give their units the same
scale, have the same form up to the font, or neither has one for the same reason. -/
theorem formOf_eq_of_alike {options others : FormOptions} {dump other : Dump} {name : String}
    {record twin : Record} (found : dump.root? options.opening = some (name, record))
    (found' : other.root? others.opening = some (name, twin))
    (alike : WindowsAlike record.first twin.first)
    (scaled : ScaledAlike options.metrics others.metrics record.first) :
    formOf options dump =
      (formOf others other).map (Noted.mapValue (Form.withFont options.font)) := by
  have properties : Option.Rel
      (WindowPropertiesMatch (fun _ => true) options.metrics others.metrics)
      (properties? record.first) (properties? twin.first) := by
    refine imp_of_rel alike.properties fun own _ isOwn agree => ?_
    have scale := scaled _ (.self _) own isOwn
    exact windowPropertiesMatch_of_agree (placementsMatch_of_agree (agree.mono (by decide)) scale)
      (agree.mono (by decide))
  have scaledChildren : ∀ child ∈ record.first.children,
      ScaledAlike options.metrics others.metrics child :=
    fun child among => scaled.child among
  have children := (List.forall₂_and_left _ _).mpr ⟨scaledChildren, alike.children⟩
  rw [formOf_of_matching (fun _ _ => rfl) (fun both => componentsMatch_of_alike both.2 both.1)
    found found' properties children]
  cases built : formOf options dump with
  | error fault => rfl
  | ok noted =>
    -- The form names the font that was asked for, before it names the other one and after.
    have font := font_of_formOf built
    show Except.ok noted =
      .ok ⟨{ noted.value with font := options.font }, noted.notes.filter fun _ => true⟩
    rw [← font, List.filter_true]

/-! ## Fields that are read -/

/-- Only the named fields of the selected root matter.  Two dumps whose selected roots have one name
and alike windows have the same form with the same remarks, or the same fault: other variables,
further elements of the records, fields of other names, and the children of components that are
neither panels nor tool bars have no influence. -/
theorem formOf_reads_named_fields (options : FormOptions) {first second : Dump} {name : String}
    {root twin : Record} (found : first.root? options.opening = some (name, root))
    (found' : second.root? options.opening = some (name, twin))
    (alike : WindowsAlike root.first twin.first) :
    formOf options first = formOf options second := by
  rw [formOf_eq_of_alike found found' alike fun _ _ _ _ => rfl]
  cases second_eq : formOf options second with
  | error fault => rfl
  | ok noted =>
    have font : noted.value.withFont options.font = noted.value := by
      obtain ⟨root, isRoot, -, rfl⟩ := formOf_eq_ok_iff.mp second_eq
      rfl
    show Except.ok (Noted.mk (noted.value.withFont options.font) noted.notes) = _
    rw [font]

/-- An axes component with a text where nothing reads it. -/
def remarkedAxes (remark : String) : Element :=
  .ofFields
    [("children", .record [.ofFields [("type", .text remark)]]),
      ("properties", .record [.ofFields
        [("Position", .vector [1, 2, 30, 40]), ("Remark", .text remark), ("Tag", .text "plot")]]),
      ("type", .text "axes")]

/-- An entry of a tool bar with a text where nothing reads it. -/
def remarkedTool (remark : String) : Element :=
  .ofFields
    [("Remark", .text remark),
      ("properties", .record [.ofFields [("Remark", .text remark), ("Tag", .text "zoom")]]),
      ("type", .text "uitoggletool")]

/-- A panel with axes in it, and a text where nothing reads it. -/
def remarkedPanel (remark : String) : Element :=
  .ofFields
    [("children", .record [remarkedAxes remark]),
      ("properties", .record
        [.ofFields [("Position", .vector [10, 20, 90, 80]), ("Title", .text "Data")],
          .ofFields [("Title", .text remark)]]),
      ("type", .text "uipanel")]

/-- A tool bar with an entry that holds a text where nothing reads it. -/
def remarkedToolBar (remark : String) : Element :=
  .ofFields
    [("children", .record [remarkedTool remark]),
      ("properties", .record [.ofFields [("Tag", .text "tools")]]),
      ("type", .text "uitoolbar")]

/-- A window with a panel, a tool bar and a text in many places where nothing reads it. -/
def remarkedWindow (remark : String) : Element :=
  .ofFields
    [("Remark", .text remark),
      ("children", .record [remarkedPanel remark, remarkedToolBar remark]),
      ("properties", .record [windowProperties "pixels"])]

/-- The dump of that window, with the text in another variable and in a second element too. -/
def remarkedDump (remark : String) : Dump :=
  ⟨[("other", [.ofFields [("Remark", .text remark)]]),
    ("hgS_070000", [remarkedWindow remark, .ofFields [("children", .text remark)]])]⟩

theorem windowsAlike_remarked (remark other : String) :
    WindowsAlike (remarkedWindow remark) (remarkedWindow other) := by
  have axes : Alike (remarkedAxes remark) (remarkedAxes other) := by
    refine .intro rfl (.some ?_) (fun isPanel => ?_) fun isToolBar => ?_
    · simp [Element.AgreeOn, componentFields, Element.field, Element.fields, Dictionary.get?,
        Record.first, Record.element]
    · exact absurd isPanel (show "axes" ≠ "uipanel" by decide)
    · exact absurd isToolBar (show "axes" ≠ "uitoolbar" by decide)
  have panel : Alike (remarkedPanel remark) (remarkedPanel other) := by
    refine .intro rfl (.some fun _ _ => rfl) (fun _ => .cons axes .nil) fun isToolBar => ?_
    exact absurd isToolBar (show "uipanel" ≠ "uitoolbar" by decide)
  have tool : ToolsAlike (remarkedTool remark) (remarkedTool other) := by
    refine ⟨rfl, .some ?_⟩
    simp [Element.AgreeOn, toolFields, Element.field, Element.fields, Dictionary.get?,
      Record.first, Record.element]
  have toolBar : Alike (remarkedToolBar remark) (remarkedToolBar other) := by
    refine .intro rfl (.some fun _ _ => rfl) (fun isPanel => ?_) fun _ => .cons tool .nil
    exact absurd isPanel (show "uitoolbar" ≠ "uipanel" by decide)
  exact ⟨.some fun _ _ => rfl, .cons panel (.cons toolBar .nil)⟩

/-- With either text the same form is built, which has the panel around the axes and the entry of the
tool bar. -/
theorem formOf_reads_named_fields_remarked :
    WindowsAlike (remarkedWindow "one") (remarkedWindow "two") ∧
      formOf usualOptions (remarkedDump "one") = formOf usualOptions (remarkedDump "two") ∧
      ∃ noted, formOf usualOptions (remarkedDump "one") = .ok noted ∧
        noted.value.widgets.map (fun node => (node.kind, node.children.map (·.tag))) =
          [(.frame, ["plot"])] ∧
        noted.value.actions.map (·.name) = ["zoom"] := by
  have alike := windowsAlike_remarked "one" "two"
  have outcome : (formOf usualOptions (remarkedDump "one")).toOption.map
      (fun noted =>
        (noted.value.widgets.map fun node => (node.kind, node.children.map (·.tag)),
          noted.value.actions.map (·.name))) =
      some ([(.frame, ["plot"])], ["zoom"]) := by
    decide +kernel
  obtain ⟨noted, built, seen⟩ := exists_ok_of_map_toOption outcome
  exact ⟨alike, formOf_reads_named_fields usualOptions rfl rfl alike, noted, built,
    Prod.mk.inj seen⟩

/-! ## Measures of fonts -/

/-- Whether the unit in the properties of a component is characters. -/
def NamesCharacters (component : Element) : Prop :=
  ((properties? component).bind fun properties => properties.text? "Units") =
    some LengthUnit.characters.word

instance (component : Element) : Decidable (NamesCharacters component) :=
  inferInstanceAs (Decidable (_ = _))

/-- Whether the unit of a component, or of one at any depth below it, is characters. -/
def UsesCharacters (component : Element) : Prop :=
  ∃ inner, Holds component inner ∧ NamesCharacters inner

theorem not_usesCharacters_iff {component : Element} :
    ¬ UsesCharacters component ↔
      ¬ NamesCharacters component ∧ ∀ child ∈ component.children, ¬ UsesCharacters child := by
  constructor
  · intro free
    exact ⟨fun names => free ⟨component, .self component, names⟩,
      fun child among ⟨inner, inside, names⟩ => free ⟨inner, .child among inside, names⟩⟩
  · rintro ⟨own, below⟩ ⟨inner, inside, names⟩
    obtain rfl | ⟨child, among, inChild⟩ := holds_iff.mp inside
    · exact own names
    · exact below child among ⟨inner, inChild, names⟩

theorem namesCharacters_of_unit {component properties : Element}
    (found : properties? component = some properties)
    (named : (LengthUnit.ofWord? (properties.textOrEmpty "Units")).getD .pixels = .characters) :
    NamesCharacters component := by
  rw [NamesCharacters, found, Option.bind_some]
  cases unit : LengthUnit.ofWord? (properties.textOrEmpty "Units") with
  | none =>
    rw [unit] at named
    cases named
  | some _ =>
    rw [unit] at named
    cases named
    have word := LengthUnit.ofWord?_eq_some_iff.mp unit
    rw [Element.textOrEmpty] at word
    cases text : properties.text? "Units" with
    | none =>
      rw [text] at word
      exact absurd word (by decide)
    | some _ =>
      rw [text] at word
      exact congrArg some word.symm

/-- Without positions in characters all fonts give the same scales. -/
theorem scaledAlike_of_not_usesCharacters {component : Element}
    (free : ¬ UsesCharacters component) (metrics others : FontMetrics) :
    ScaledAlike metrics others component := by
  intro inner inside properties found
  apply LengthUnit.scale_eq
  intro named
  exact free ⟨inner, inside, namesCharacters_of_unit found named⟩

/-- A form does not depend on fonts unless positions are given in characters.  If no unit of the
selected root's window or of a component at any depth below it is characters, then with any two
fonts and any two measures there is the same fault, or forms with the same remarks that differ only
in the font, which is the one that was asked for. -/
theorem formOf_font_only_named (opening : String) (dump : Dump)
    (free : ∀ name root, dump.root? opening = some (name, root) → ¬ UsesCharacters root.first)
    (font other : FontSpec) (metrics others : FontMetrics) :
    formOf ⟨font, metrics, opening⟩ dump =
        (formOf ⟨other, others, opening⟩ dump).map (Noted.mapValue (Form.withFont font)) ∧
      ∀ noted, formOf ⟨font, metrics, opening⟩ dump = .ok noted → noted.value.font = font := by
  constructor
  · cases found : dump.root? opening with
    | none =>
      have own : formOf ⟨font, metrics, opening⟩ dump = .error (.rootNotFound opening) :=
        formOf_of_rootless found
      have twin : formOf ⟨other, others, opening⟩ dump = .error (.rootNotFound opening) :=
        formOf_of_rootless found
      rw [own, twin]
      rfl
    | some root =>
      obtain ⟨name, record⟩ := root
      exact formOf_eq_of_alike found found (.refl record.first)
        (scaledAlike_of_not_usesCharacters (free name record found) metrics others)
  · intro noted built
    obtain ⟨root, isRoot, -, rfl⟩ := formOf_eq_ok_iff.mp built
    rfl

/-- A panel in inches around a button in points. -/
def printedPanel : Element :=
  .ofFields
    [("children", .record [.ofFields
        [("properties", .record [.ofFields
            [("Position", .vector [9, 9, 36, 18]), ("Units", .text "points")]]),
          ("type", .text "uicontrol")]]),
      ("properties", .record [.ofFields
        [("Position", .vector [0, 0, 2, 1]), ("Units", .text "inches")]]),
      ("type", .text "uipanel")]

/-- A wider and larger font is only named in the form, which has the button in the panel. -/
theorem formOf_font_only_named_printed :
    ¬ UsesCharacters (windowRoot "centimeters" [printedPanel]).record.first ∧
      formOf ⟨⟨"Courier", 12⟩, ⟨10, 20⟩, standardOpening⟩ (windowDump "centimeters" [printedPanel]) =
        (formOf usualOptions (windowDump "centimeters" [printedPanel])).map
          (Noted.mapValue (Form.withFont ⟨"Courier", 12⟩)) ∧
      ∃ noted, formOf usualOptions (windowDump "centimeters" [printedPanel]) = .ok noted ∧
        noted.value.widgets.map (fun node => (node.kind, node.children.map (·.kind))) =
          [(.frame, [.pushButton])] := by
  have free : ¬ UsesCharacters (windowRoot "centimeters" [printedPanel]).record.first := by
    refine not_usesCharacters_iff.mpr ⟨by decide, fun panel among => ?_⟩
    obtain rfl := List.mem_singleton.mp among
    refine not_usesCharacters_iff.mpr ⟨by decide, fun button within => ?_⟩
    obtain rfl := List.mem_singleton.mp within
    exact not_usesCharacters_iff.mpr ⟨by decide, fun _ none => nomatch none⟩
  have outcome : (formOf usualOptions (windowDump "centimeters" [printedPanel])).toOption.map
      (fun noted => noted.value.widgets.map fun node => (node.kind, node.children.map (·.kind))) =
      some [(.frame, [.pushButton])] := by
    decide +kernel
  refine ⟨free, (formOf_font_only_named standardOpening (windowDump "centimeters" [printedPanel])
    (fun name root found => ?_) ⟨"Courier", 12⟩ .standard ⟨10, 20⟩ ⟨6, 13⟩).1,
    exists_ok_of_map_toOption outcome⟩
  cases found
  exact free

end Figure

end FigureForm
