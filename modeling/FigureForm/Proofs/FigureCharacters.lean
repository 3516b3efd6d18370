/-
# Characters from figures

Where the forbidden characters of a document come from.  A value holds texts: itself, the entries of a
list, and those in the fields of its elements at any depth.  What a component shows as a widget is
made of texts that the component holds, which follows from the components inside to those around
them, and enclosure only moves widgets.  So every character of the document of a figure is allowed, or
it stands in a text of the dump or in the name of the font (`formOf_forbidden_from_texts`).  No step
on the way drops it: one such character in the title is in the document (`formOf_controlTitle`).
-/

import FigureForm.Proofs.FormCharacters
import FigureForm.Proofs.Reduction

namespace FigureForm

open Markup (forbidden forbiddenIn)

/-! ## Texts of figures -/

/-- A text somewhere in a value. -/
inductive FieldValue.Holds : FieldValue → String → Prop
  | text (value : String) : Holds (.text value) value
  | entry {values : List String} {value : String} (among : value ∈ values) :
      Holds (.textList values) value
  | field {elements : Record} {element : Element} {name value : String} (among : element ∈ elements)
      (inside : Holds (element.field name) value) : Holds (.record elements) value

namespace Element

variable {component inner properties : Element} {name value : String} {c : Char}

/-- A text in one of the fields of an element. -/
def Holds (element : Element) (value : String) : Prop :=
  ∃ name, (element.field name).Holds value

/-- A forbidden character in a text of an element. -/
def HoldsForbidden (element : Element) (c : Char) : Prop :=
  ∃ value, element.Holds value ∧ c ∈ forbidden value.toList

theorem not_holds_empty : ¬ Element.empty.Holds value := by
  rintro ⟨name, holds⟩
  cases holds

theorem holds_of_record {elements : Record} (found : component.record? name = some elements)
    (among : inner ∈ elements) (holds : inner.Holds value) : component.Holds value := by
  obtain ⟨field, holds⟩ := holds
  refine ⟨name, ?_⟩
  rw [record?] at found
  cases isRecord : component.field name with
  | record others =>
    rw [isRecord] at found
    cases found
    exact .field among holds
  | _ =>
    rw [isRecord] at found
    cases found

theorem holds_of_child (inside : inner ∈ component.children) (holds : inner.Holds value) :
    component.Holds value := by
  rw [children] at inside
  cases found : component.record? "children" with
  | none =>
    rw [found] at inside
    cases inside
  | some elements =>
    rw [found] at inside
    exact holds_of_record found inside holds

theorem holdsForbidden_of_child (inside : inner ∈ component.children)
    (holds : inner.HoldsForbidden c) : component.HoldsForbidden c := by
  obtain ⟨value, held, among⟩ := holds
  exact ⟨value, holds_of_child inside held, among⟩

theorem holdsForbidden_textOrEmpty (member : c ∈ forbidden (component.textOrEmpty name).toList) :
    component.HoldsForbidden c := by
  rw [textOrEmpty, text?] at member
  cases isText : component.field name with
  | text value =>
    rw [isText] at member
    exact ⟨value, ⟨name, isText ▸ .text value⟩, member⟩
  | _ =>
    rw [isText] at member
    cases member

end Element

/-- An element that holds a text is in the record. -/
theorem Record.exists_holds {record : Record} {index : Nat} {value : String}
    (holds : (record.element index).Holds value) : ∃ element ∈ record, element.Holds value := by
  rw [Record.element] at holds
  cases found : record[index]? with
  | none =>
    rw [found] at holds
    exact absurd holds Element.not_holds_empty
  | some element =>
    rw [found] at holds
    exact ⟨element, List.mem_of_getElem? found, holds⟩

/-- A text in one of the variables of a dump. -/
def Dump.Holds (dump : Dump) (value : String) : Prop :=
  ∃ named ∈ dump.records, (FieldValue.record named.2).Holds value

/-! ## Texts taken apart -/

/-- The pieces of a text at an allowed separator have the forbidden characters of the text. -/
theorem Pieces.forbidden_split (separator : Char) (allowed : Markup.isAllowed separator = true)
    (text : List Char) : (split separator text).flatMap forbidden = forbidden text := by
  have joined (pieces : List (List Char)) :
      forbidden (join separator pieces) = pieces.flatMap forbidden := by
    induction pieces with
    | nil => rfl
    | cons piece rest ih =>
      cases rest with
      | nil => simp [join]
      | cons next others =>
        rw [join, Markup.forbidden_append, Markup.forbidden_cons allowed, ih, List.flatMap_cons,
          List.flatMap_cons, List.flatMap_cons]
  rw [← joined, join_split]

theorem Content.forbiddenIn_separated (content : Content) :
    forbiddenIn content.separated.items = forbiddenIn content.items := by
  cases content with
  | single text =>
    have pieces := Pieces.forbidden_split '|' rfl text.toList
    simpa [separated, items, forbiddenIn, List.flatMap_map] using pieces
  | _ => rfl

namespace Figure

open WidgetNode

variable {metrics : FontMetrics} {areaHeight : Coordinate} {place : Place}
  {component properties : Element} {kind : WidgetKind} {node : WidgetNode} {c : Char}

/-! ## Components -/

theorem holdsForbidden_of_properties (found : properties? component = some properties)
    (holds : properties.HoldsForbidden c) : component.HoldsForbidden c := by
  rw [properties?, Option.map_eq_some_iff] at found
  obtain ⟨record, isRecord, rfl⟩ := found
  obtain ⟨value, held, inText⟩ := holds
  obtain ⟨element, among, held⟩ := Record.exists_holds held
  exact ⟨value, Element.holds_of_record isRecord among held, inText⟩

theorem holdsForbidden_contentOf {name : String}
    (member : c ∈ forbiddenIn (contentOf (properties.field name)).items) :
    properties.HoldsForbidden c := by
  obtain ⟨value, among, inText⟩ := Markup.mem_forbiddenIn.mp member
  refine ⟨value, ⟨name, ?_⟩, inText⟩
  cases isField : properties.field name with
  | text text =>
    rw [isField] at among
    cases List.mem_singleton.mp among
    exact .text _
  | textList texts =>
    rw [isField] at among
    exact .entry among
  | _ =>
    rw [isField] at among
    cases among

/-- What a control shows stands in its properties. -/
theorem holdsForbidden_leafText (member : c ∈ forbiddenIn (leafText kind properties).items) :
    properties.HoldsForbidden c := by
  unfold leafText at member
  split at member
  · cases member
  · cases member
  · rw [Content.forbiddenIn_separated] at member
    exact holdsForbidden_contentOf member
  · exact holdsForbidden_contentOf member

/-- What a frame shows stands in its properties. -/
theorem holdsForbidden_titleOf (member : c ∈ forbiddenIn (titleOf properties).items) :
    properties.HoldsForbidden c := by
  unfold titleOf at member
  dsimp only at member
  split at member
  · cases member
  · have inTitle : c ∈ forbidden (properties.textOrEmpty "Title").toList := by
      simpa [Content.items] using member
    exact Element.holdsForbidden_textOrEmpty inTitle

/-- The tag, the text and the style of a widget come from properties. -/
theorem holdsForbidden_ownTexts (member : c ∈ forbiddenIn node.ownTexts)
    (tag : node.tag = properties.textOrEmpty "Tag")
    (style : node.styleSheet = none ∨
      ∃ color, node.styleSheet = some (Color.backgroundRule node.tag color))
    (text : c ∈ forbiddenIn node.text.items → properties.HoldsForbidden c) :
    properties.HoldsForbidden c := by
  have ofTag (inTag : c ∈ forbidden node.tag.toList) : properties.HoldsForbidden c :=
    Element.holdsForbidden_textOrEmpty (tag ▸ inTag)
  rw [ownTexts, Markup.forbiddenIn_cons, Markup.forbiddenIn_append, List.mem_append,
    List.mem_append] at member
  obtain inTag | inText | inStyle := member
  · exact ofTag inTag
  · split at inText
    · cases inText
    · exact text inText
  · obtain none | ⟨color, some⟩ := style
    · rw [none] at inStyle
      cases inStyle
    · rw [some] at inStyle
      apply ofTag
      simpa [Color.forbidden_backgroundRule] using inStyle

/-- What the widget of a component shows stands in texts of the component.  The induction goes from
the components inside a component to the component; only a frame shows those inside. -/
theorem holdsForbidden_of_built (component : Element) {areaHeight : Coordinate} {place : Place}
    {node : WidgetNode} (built : (widgetOf metrics areaHeight place component).value = some node)
    (member : c ∈ forbiddenIn node.shownTexts) : component.HoldsForbidden c := by
  induction component using Element.childrenInduction generalizing areaHeight place node with
  | step component ih =>
    obtain ⟨shown, own⟩ := mem_forbiddenIn_shownTexts.mp member
    cases building_of_built built with
    | toolBar => exact absurd rfl shown
    | frame properties found recognized position positioned =>
      obtain own | ⟨-, inner, among, inside⟩ := own
      · exact holdsForbidden_of_properties found
          (holdsForbidden_ownTexts own rfl (nodeOf_styleSheet .frame properties)
            holdsForbidden_titleOf)
      · obtain ⟨child, isChild, _, builtInside⟩ := mem_widgetsOf among
        exact Element.holdsForbidden_of_child isChild (ih child isChild builtInside inside)
    | leaf properties found kind recognized notToolBar notFrame position positioned =>
      obtain own | ⟨isFrame, -⟩ := own
      · exact holdsForbidden_of_properties found
          (holdsForbidden_ownTexts own rfl (nodeOf_styleSheet kind properties)
            holdsForbidden_leafText)
      · exact absurd isFrame notFrame

/-- An entry of the tool bar of a component is that of an entry of the component. -/
theorem exists_action?_of_built
    (built : (widgetOf metrics areaHeight place component).value = some node) {action : Action}
    (member : action ∈ node.actions) : ∃ tool ∈ component.children, action? tool = some action := by
  cases building_of_built built with
  | toolBar =>
    rw [value_actionsOf] at member
    exact List.mem_filterMap.mp member
  | frame => cases member
  | leaf => cases member

/-- What a tool bar shows of an entry stands in texts of the entry. -/
theorem holdsForbidden_of_action? {tool : Element} {action : Action}
    (becomes : action? tool = some action)
    (member : c ∈ forbidden action.name.toList ∨ c ∈ forbiddenIn (Form.actionTexts action)) :
    tool.HoldsForbidden c := by
  unfold action? at becomes
  split at becomes
  next =>
    obtain ⟨properties, found, rfl⟩ := Option.map_eq_some_iff.mp becomes
    apply holdsForbidden_of_properties found
    simp only [Form.actionTexts, Markup.forbiddenIn_cons, Markup.forbiddenIn_nil,
      Action.forbidden_iconFileName, List.mem_append, List.append_nil] at member
    obtain name | name | name | tooltip := member
    · exact Element.holdsForbidden_textOrEmpty name
    · exact Element.holdsForbidden_textOrEmpty name
    · exact Element.holdsForbidden_textOrEmpty name
    · exact Element.holdsForbidden_textOrEmpty tooltip
  next => cases becomes

/-! ## Windows -/

/-- What is moved into a frame shows what it has shown before. -/
theorem shownTexts_seenFrom (frame node : WidgetNode) :
    (seenFrom frame node).shownTexts = node.shownTexts := by
  rw [shownTexts_eq, shownTexts_eq]
  rfl

/-- Enclosure shows nothing that was not shown before. -/
theorem mem_forbiddenIn_enclosed {frames others : List WidgetNode}
    (member : c ∈ forbiddenIn (shownTextsAll (enclosed frames others))) :
    ∃ node ∈ frames ++ others, c ∈ forbiddenIn node.shownTexts := by
  obtain ⟨node, among, shown⟩ := mem_forbiddenIn_shownTextsAll.mp member
  obtain inFront | behind := List.mem_append.mp among
  · obtain ⟨index, bound, rfl⟩ := List.mem_mapIdx.mp inFront
    have isFrame : frames[index] ∈ frames := List.getElem_mem bound
    obtain ⟨notToolBar, own | ⟨isFrameKind, child, inside, shownInside⟩⟩ :=
      mem_forbiddenIn_shownTexts.mp shown
    · exact ⟨frames[index], List.mem_append_left _ isFrame,
        mem_forbiddenIn_shownTexts.mpr ⟨notToolBar, .inl own⟩⟩
    · obtain own | taken := List.mem_append.mp inside
      · exact ⟨frames[index], List.mem_append_left _ isFrame,
          mem_forbiddenIn_shownTexts.mpr
            ⟨notToolBar, .inr ⟨isFrameKind, child, own, shownInside⟩⟩⟩
      · obtain ⟨before, held, rfl⟩ := List.mem_map.mp taken
        rw [shownTexts_seenFrom] at shownInside
        exact ⟨before, List.mem_append_right _ (List.mem_filter.mp held).1, shownInside⟩
  · exact ⟨node, List.mem_append_right _ (List.mem_filter.mp behind).1, shown⟩

variable {options : FormOptions} {dump : Dump} {root : Root}

theorem mem_components_of_mem_nodes (member : node ∈ root.nodes options) :
    ∃ component ∈ root.components, ∃ place,
      (widgetOf options.metrics (root.window options).height place component).value =
        some node := by
  have listed : (widgetsOf options.metrics (root.window options).height (.top "children") 0
      root.components).value = root.nodes options :=
    congrArg Noted.value (root.widgetsOf_components options)
  rw [← listed] at member
  exact mem_widgetsOf member

/-- What stands in the first element of the root's record stands in the dump. -/
theorem holds_of_root (isRoot : IsRoot options dump root)
    (holds : root.record.first.HoldsForbidden c) :
    ∃ value, dump.Holds value ∧ c ∈ forbidden value.toList := by
  obtain ⟨value, inFirst, inText⟩ := holds
  obtain ⟨element, among, name, inField⟩ := Record.exists_holds inFirst
  have listed := List.mem_of_find?_eq_some isRoot.found
  exact ⟨value, ⟨_, List.mem_reverse.mp listed, .field among inField⟩, inText⟩

theorem holdsForbidden_of_mem_nodes (member : node ∈ root.nodes options)
    (shown : c ∈ forbiddenIn node.shownTexts) : root.record.first.HoldsForbidden c := by
  obtain ⟨component, among, _, built⟩ := mem_components_of_mem_nodes member
  exact Element.holdsForbidden_of_child among (holdsForbidden_of_built component built shown)

theorem holdsForbidden_of_mem_actions {widgets : List WidgetNode} {action : Action}
    (member : action ∈ (root.formWith options widgets).actions)
    (shown : c ∈ forbidden action.name.toList ∨ c ∈ forbiddenIn (Form.actionTexts action)) :
    root.record.first.HoldsForbidden c := by
  unfold Form.actions at member
  split at member
  next toolbar isToolBar =>
    have built := (List.mem_filter.mp (List.mem_of_getLast? isToolBar)).1
    obtain ⟨component, among, _, built⟩ := mem_components_of_mem_nodes built
    obtain ⟨tool, inside, becomes⟩ := exists_action?_of_built built member
    exact Element.holdsForbidden_of_child among
      (Element.holdsForbidden_of_child inside (holdsForbidden_of_action? becomes shown))
  next => cases member

/-- What a form shows stands in texts of its root, except for the name of the font. -/
theorem holdsForbidden_of_shownTexts (isRoot : IsRoot options dump root)
    (member : c ∈ forbiddenIn (root.formWith options
      (enclosed (root.frames options) (root.others options))).shownTexts) :
    c ∈ forbidden options.font.family.toList ∨ root.record.first.HoldsForbidden c := by
  have ofProperties (name : String)
      (inText : c ∈ forbidden (root.properties.textOrEmpty name).toList) :
      root.record.first.HoldsForbidden c :=
    holdsForbidden_of_properties isRoot.hasProperties (Element.holdsForbidden_textOrEmpty inText)
  simp only [Form.shownTexts, Markup.forbiddenIn_append, Markup.forbiddenIn_cons,
    Markup.forbiddenIn_nil, List.append_nil, List.mem_append] at member
  -- One case for each sort of text, in the order in which the form lists them.
  obtain ((((inTag | inFamily | inTitle) | inRule) | inWidget) | inName) | inAction := member
  · exact .inr (ofProperties "Tag" inTag)
  · exact .inl inFamily
  · exact .inr (ofProperties "Name" inTitle)
  · right
    apply ofProperties "Tag"
    cases colored : (root.formWith options
        (enclosed (root.frames options) (root.others options))).background with
    | none =>
      rw [colored] at inRule
      cases inRule
    | some color =>
      rw [colored, Option.map_some, Option.toList_some, Markup.forbiddenIn_cons,
        Color.forbidden_backgroundRule, Markup.forbiddenIn_nil, List.append_nil] at inRule
      exact inRule
  · obtain ⟨node, among, shown⟩ := mem_forbiddenIn_enclosed inWidget
    obtain isFrame | isOther := List.mem_append.mp among
    · exact .inr (holdsForbidden_of_mem_nodes (List.mem_filter.mp isFrame).1 shown)
    · exact .inr (holdsForbidden_of_mem_nodes (List.mem_filter.mp isOther).1 shown)
  · obtain ⟨_, named, inText⟩ := Markup.mem_forbiddenIn.mp inName
    obtain ⟨action, among, rfl⟩ := List.mem_map.mp named
    exact .inr (holdsForbidden_of_mem_actions among (.inl inText))
  · obtain ⟨text, listed, inText⟩ := Markup.mem_forbiddenIn.mp inAction
    obtain ⟨action, among, isText⟩ := List.mem_flatMap.mp listed
    exact .inr (holdsForbidden_of_mem_actions among
      (.inr (Markup.mem_forbiddenIn.mpr ⟨text, isText, inText⟩)))

/-- The forbidden characters of a document come from the figure.  For every dump that has a form they
are those of the texts that the form shows, in their order, so that the document holds only allowed
characters exactly when these texts do; and every character of the document is allowed, or it stands
in a text of the dump or in the name of the font. -/
theorem formOf_forbidden_from_texts {answer : Noted Form} (built : formOf options dump = .ok answer) :
    forbidden answer.value.render.toList = forbiddenIn answer.value.shownTexts ∧
    ((∀ c ∈ answer.value.render.toList, Markup.isAllowed c = true) ↔
      ∀ text ∈ answer.value.shownTexts, ∀ c ∈ text.toList, Markup.isAllowed c = true) ∧
    ∀ c ∈ answer.value.render.toList, Markup.isAllowed c = true ∨
      (∃ text, dump.Holds text ∧ c ∈ text.toList) ∨ c ∈ options.font.family.toList := by
  have characters := Form.forbidden_render answer.value
  refine ⟨characters, ?_, ?_⟩
  · rw [← Markup.forbidden_eq_nil_iff, characters, Markup.forbiddenIn_eq_nil_iff]
  · intro c inDocument
    cases allowed : Markup.isAllowed c with
    | true => exact .inl rfl
    | false =>
      right
      have member : c ∈ forbidden answer.value.render.toList :=
        Markup.mem_forbidden.mpr ⟨inDocument, allowed⟩
      obtain ⟨root, isRoot, _, rfl⟩ := formOf_eq_ok_iff.mp built
      rw [characters] at member
      obtain inFamily | inRoot := holdsForbidden_of_shownTexts isRoot member
      · exact .inr (Markup.mem_forbidden.mp inFamily).1
      · obtain ⟨value, holds, inText⟩ := holds_of_root isRoot inRoot
        exact .inl ⟨value, holds, (Markup.mem_forbidden.mp inText).1⟩

/-- A dump of a window with nothing but a title. -/
def titledDump (title : String) : Dump :=
  ⟨[("hgS_070000",
    [.ofFields [("properties",
      .record [.ofFields [("Name", .text title), ("Position", .vector [100, 100, 400, 300])]])]])]⟩

/-- The texts of the form of such a dump. -/
def titledTexts (title : String) : Option (List String) :=
  (formOf usualOptions (titledDump title)).toOption.map fun answer => answer.value.shownTexts

theorem exists_form_of_titledTexts {title : String} {texts : List String}
    (isShown : titledTexts title = some texts) :
    ∃ answer, formOf usualOptions (titledDump title) = .ok answer ∧
      answer.value.shownTexts = texts := by
  unfold titledTexts at isShown
  cases built : formOf usualOptions (titledDump title) with
  | error fault =>
    rw [built] at isShown
    cases isShown
  | ok answer =>
    rw [built] at isShown
    exact ⟨answer, rfl, Option.some.inj isShown⟩

/-- Signs of the markup and a tab in the title leave a document of allowed characters. -/
theorem formOf_forbidden_from_texts_signs :
    ∃ answer, formOf usualOptions (titledDump "a\t<&\">") = .ok answer ∧
      ∀ c ∈ answer.value.render.toList, Markup.isAllowed c = true := by
  have isShown : titledTexts "a\t<&\">" = some ["", "MS Sans Serif", "a\t<&\">"] := by
    decide +kernel
  obtain ⟨answer, built, shown⟩ := exists_form_of_titledTexts isShown
  have allowed : forbiddenIn answer.value.shownTexts = [] := by
    rw [shown]
    decide
  exact ⟨answer, built,
    (formOf_forbidden_from_texts built).2.1.mpr (Markup.forbiddenIn_eq_nil_iff.mp allowed)⟩

/-- A control character in the title stands in the document, which may not hold it. -/
theorem formOf_controlTitle :
    ∃ answer, formOf usualOptions (titledDump "a\x01b") = .ok answer ∧
      '\x01' ∈ answer.value.render.toList ∧ Markup.isAllowed '\x01' = false := by
  have isShown : titledTexts "a\x01b" = some ["", "MS Sans Serif", "a\x01b"] := by
    decide +kernel
  obtain ⟨answer, built, shown⟩ := exists_form_of_titledTexts isShown
  have characters : forbidden answer.value.render.toList = ['\x01'] := by
    rw [Form.forbidden_render, shown]
    decide
  exact ⟨answer, built, Markup.mem_forbidden.mp (characters ▸ List.mem_singleton_self _)⟩

end Figure

end FigureForm
