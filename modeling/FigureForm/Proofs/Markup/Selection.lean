/-
# Looking things up in trees

What a program that has read a document asks for: the elements with a name, the value of a property,
the characters inside an element.  Each question is answered separately for the two halves of a
concatenation, so that a tree is asked about in the pieces that it was written in.
-/

import FigureForm.Form.Markup
import FigureForm.Proofs.Markup.RoundTrip

namespace FigureForm.Markup

namespace Tree

/-- The name of an element; a text has the empty one. -/
def name : Tree → String
  | element name _ _ => name
  | text _ => ""

/-- The attributes of an element in the order of the document. -/
def attributes : Tree → List (String × String)
  | element _ attributes _ => attributes
  | text _ => []

/-- What stands between the tags of an element. -/
def inside : Tree → List Tree
  | element _ _ inside => inside
  | text _ => []

/-- Whether this is an element with the given name. -/
def isElement (name : String) : Tree → Bool
  | element own _ _ => own == name
  | text _ => false

/-- The characters of a text; those further inside an element do not count. -/
def characters : Tree → String
  | element _ _ _ => ""
  | text content => content

/-- The characters directly inside an element. -/
def content (tree : Tree) : String :=
  String.join (tree.inside.map characters)

/-- The value of the first attribute with the given name. -/
def attribute? (key : String) (tree : Tree) : Option String :=
  tree.attributes.lookup key

/-- The value of a property with the given name. -/
def valueOf? (key : String) : Tree → Option Tree
  | element name attributes [value] =>
    if name = "property" ∧ attributes = [("name", key)] then some value else none
  | _ => none

end Tree

/-- The elements with a name. -/
def elements (name : String) (trees : List Tree) : List Tree :=
  trees.filter (Tree.isElement name)

/-- The value of the first property with a name. -/
def property? (key : String) (trees : List Tree) : Option Tree :=
  trees.findSome? (Tree.valueOf? key)

/-- The characters of a property's value. -/
def propertyText? (key : String) (trees : List Tree) : Option String :=
  (property? key trees).map Tree.content

/-- The parts of a property's value by their names. -/
def propertyParts? (key : String) (trees : List Tree) : Option (List (String × String)) :=
  (property? key trees).map fun value => value.inside.map fun part => (part.name, part.content)

/-! ## Concatenations -/

theorem trees_eq_map (markups : List Markup) : trees markups = markups.map tree := by
  induction markups with
  | nil => rfl
  | cons markup rest inductive_hypothesis => rw [trees, inductive_hypothesis, List.map_cons]

@[simp] theorem trees_append (first second : List Markup) :
    trees (first ++ second) = trees first ++ trees second := by
  rw [trees_eq_map, trees_eq_map, trees_eq_map, List.map_append]

@[simp] theorem elements_append (name : String) (first second : List Tree) :
    elements name (first ++ second) = elements name first ++ elements name second :=
  List.filter_append first second

@[simp] theorem property?_append (key : String) (first second : List Tree) :
    property? key (first ++ second) = (property? key first).or (property? key second) :=
  List.findSome?_append

@[simp] theorem propertyText?_append (key : String) (first second : List Tree) :
    propertyText? key (first ++ second) =
      (propertyText? key first).or (propertyText? key second) := by
  unfold propertyText?
  rw [property?_append]
  cases property? key first <;> rfl

/-! ## Properties -/

theorem content_text (name : String) (attributes : List (String × String)) (content : String) :
    (text name attributes content).tree.content = content := by
  rw [tree, Tree.content, Tree.inside]
  split
  next empty =>
    rw [String.isEmpty_iff.1 empty]
    rfl
  next => simp [Tree.characters]

/-- The parts of an element that was written from named texts. -/
theorem parts_nested_texts (name : String) (parts : List (String × String)) :
    (nested name [] (parts.map fun part => text part.1 [] part.2)).tree.inside.map
      (fun part => (part.name, part.content)) = parts := by
  have readPart : ((fun part : Tree => (part.name, part.content)) ∘ tree) ∘
      (fun part : String × String => text part.1 [] part.2) = id := by
    funext part
    exact Prod.ext rfl (content_text part.1 [] part.2)
  rw [tree, Tree.inside, trees_eq_map, List.map_map, List.map_map, readPart, List.map_id]

theorem property?_cons (key name : String) (value : Markup) (rest : List Markup) :
    property? key (trees (property name value :: rest)) =
      if key = name then some value.tree else property? key (trees rest) := by
  by_cases same : key = name
  · simp [property?, property, tree, trees, Tree.valueOf?, same]
  · simp [property?, property, tree, trees, Tree.valueOf?, same, Ne.symm same]

@[simp] theorem propertyText?_nil (key : String) : propertyText? key (trees []) = none :=
  rfl

@[simp] theorem propertyText?_cons (key type name value : String) (rest : List Markup) :
    propertyText? key (trees (textProperty type name value :: rest)) =
      if key = name then some value else propertyText? key (trees rest) := by
  rw [propertyText?, textProperty, property?_cons]
  split
  · rw [Option.map_some, content_text]
  · rfl

theorem elements_property_cons {name : String} (other : "property" ≠ name) (own : String)
    (value : Markup) (rest : List Markup) :
    elements name (trees (property own value :: rest)) = elements name (trees rest) := by
  simp [elements, property, tree, trees, Tree.isElement, other]

@[simp] theorem elements_textProperty_cons {name : String} (other : "property" ≠ name)
    (type own value : String) (rest : List Markup) :
    elements name (trees (textProperty type own value :: rest)) = elements name (trees rest) :=
  elements_property_cons other own (text type [] value) rest

theorem elements_cons (name : String) (markup : Markup) (rest : List Markup) :
    elements name (trees (markup :: rest)) =
      if markup.tree.isElement name then markup.tree :: elements name (trees rest)
      else elements name (trees rest) :=
  List.filter_cons

@[simp] theorem elements_nil (name : String) : elements name (trees []) = [] :=
  rfl

/-! ## Other elements -/

theorem valueOf?_eq_none {tree : Tree} (other : tree.isElement "property" = false) (key : String) :
    tree.valueOf? key = none := by
  match tree with
  | .text _ => rfl
  | .element _ _ [] => rfl
  | .element _ _ (_ :: _ :: _) => rfl
  | .element name attributes [value] =>
    have different : name ≠ "property" := by simpa [Tree.isElement] using other
    rw [Tree.valueOf?, if_neg fun both => different both.1]

/-- Elements other than properties have no properties of their own among them. -/
theorem property?_eq_none {key : String} {markups : List Markup}
    (others : ∀ markup ∈ markups, markup.tree.isElement "property" = false) :
    property? key (trees markups) = none := by
  rw [property?, List.findSome?_eq_none_iff, trees_eq_map]
  intro tree member
  obtain ⟨markup, markupMember, rfl⟩ := List.mem_map.1 member
  exact valueOf?_eq_none (others markup markupMember) key

theorem elements_eq_self {name : String} {markups : List Markup}
    (all : ∀ markup ∈ markups, markup.tree.isElement name = true) :
    elements name (trees markups) = trees markups := by
  rw [elements, trees_eq_map, List.filter_eq_self]
  intro tree member
  obtain ⟨markup, markupMember, rfl⟩ := List.mem_map.1 member
  exact all markup markupMember

theorem elements_eq_nil {name : String} {markups : List Markup}
    (others : ∀ markup ∈ markups, markup.tree.isElement name = false) :
    elements name (trees markups) = [] := by
  rw [elements, trees_eq_map, List.filter_eq_nil_iff]
  intro tree member
  obtain ⟨markup, markupMember, rfl⟩ := List.mem_map.1 member
  rw [others markup markupMember]
  exact Bool.false_ne_true

/-! ## The names in forms -/

@[simp] theorem isName_keys :
    IsName "version" ∧ IsName "class" ∧ IsName "name" ∧ IsName "native" ∧ IsName "spacing" ∧
      IsName "margin" ∧ IsName "location" := by
  decide

@[simp] theorem isName_emptyElements :
    IsName "widget" ∧ IsName "addaction" ∧ IsName "layoutdefault" := by
  decide

@[simp] theorem holdsElements_names :
    HoldsElements "ui" ∧ HoldsElements "widget" ∧ HoldsElements "property" ∧
      HoldsElements "rect" ∧ HoldsElements "font" ∧ HoldsElements "item" ∧
      HoldsElements "attribute" ∧ HoldsElements "action" ∧ HoldsElements "customwidgets" ∧
      HoldsElements "customwidget" := by
  decide

@[simp] theorem holdsText_types :
    HoldsText "string" ∧ HoldsText "enum" ∧ HoldsText "bool" ∧ HoldsText "set" ∧
      HoldsText "iconset" := by
  decide

@[simp] theorem holdsText_names :
    HoldsText "x" ∧ HoldsText "y" ∧ HoldsText "width" ∧ HoldsText "height" ∧
      HoldsText "family" ∧ HoldsText "pointsize" ∧ HoldsText "class" ∧ HoldsText "extends" ∧
      HoldsText "header" ∧ HoldsText "container" ∧ HoldsText "pixmapfunction" ∧
      HoldsText "resources" ∧ HoldsText "connections" := by
  decide

@[simp] theorem wellFormed_textProperty {type name value : String} :
    (textProperty type name value).WellFormed ↔ HoldsText type := by
  simp [textProperty, property]

theorem wellFormed_rectangleProperty (name : String) (r : Rectangle) :
    (rectangleProperty name r).WellFormed := by
  simp [rectangleProperty, property]

end FigureForm.Markup
