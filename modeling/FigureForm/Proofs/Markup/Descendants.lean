/-
# Elements at any depth

`throughout` lists trees with everything inside them, and `elementsWithin` picks the elements with a
name from that list.  As with the questions about one level, the answer for a concatenation is put
together from the answers for its halves, and elements that hold a text hold no further elements.
-/

import FigureForm.Proofs.Markup.Selection

namespace FigureForm.Markup

mutual

/-- The trees inside a tree, at any depth and in the order of the document. -/
def Tree.descendants : Tree → List Tree
  | .element _ _ inside => throughout inside
  | .text _ => []

/-- Trees side by side, each followed by the trees inside it. -/
def throughout : List Tree → List Tree
  | [] => []
  | tree :: rest => tree :: (tree.descendants ++ throughout rest)

end

theorem Tree.descendants_eq (tree : Tree) : tree.descendants = throughout tree.inside := by
  cases tree with
  | element name attributes inside => rw [descendants, Tree.inside]
  | text content => rw [descendants, Tree.inside, throughout]

theorem throughout_append (first second : List Tree) :
    throughout (first ++ second) = throughout first ++ throughout second := by
  induction first with
  | nil => rw [throughout, List.nil_append, List.nil_append]
  | cons tree rest ih =>
    rw [List.cons_append, throughout, throughout, ih, List.cons_append, List.append_assoc]

/-- The elements with a name among trees and inside them, at any depth. -/
def elementsWithin (name : String) (trees : List Tree) : List Tree :=
  elements name (throughout trees)

section

variable (name : String)

theorem elementsWithin_nil : elementsWithin name [] = [] := by
  rw [elementsWithin, throughout]
  rfl

@[simp] theorem elementsWithin_trees_nil : elementsWithin name (trees []) = [] :=
  elementsWithin_nil name

theorem elementsWithin_cons (tree : Tree) (rest : List Tree) :
    elementsWithin name (tree :: rest) =
      (if tree.isElement name then [tree] else []) ++ elementsWithin name tree.inside ++
        elementsWithin name rest := by
  rw [elementsWithin, throughout, Tree.descendants_eq, elements, List.filter_cons,
    List.filter_append]
  split <;> rfl

@[simp] theorem elementsWithin_append (first second : List Tree) :
    elementsWithin name (first ++ second) =
      elementsWithin name first ++ elementsWithin name second := by
  rw [elementsWithin, throughout_append, elements_append]
  rfl

/-- An element that holds a text holds no other element. -/
theorem elementsWithin_inside_text (own : String) (attributes : List (String × String))
    (content : String) :
    elementsWithin name (text own attributes content).tree.inside = [] := by
  rw [tree, Tree.inside]
  split
  · exact elementsWithin_nil name
  · rw [elementsWithin_cons, Tree.inside, elementsWithin_nil]
    rfl

variable {name}

theorem elementsWithin_text_cons {own : String} (other : own ≠ name)
    (attributes : List (String × String)) (content : String) (rest : List Markup) :
    elementsWithin name (trees (text own attributes content :: rest)) =
      elementsWithin name (trees rest) := by
  have notNamed : ¬ (text own attributes content).tree.isElement name = true := by
    simpa [tree, Tree.isElement] using other
  rw [trees, elementsWithin_cons, if_neg notNamed, elementsWithin_inside_text]
  rfl

theorem elementsWithin_nested_cons {own : String} (other : own ≠ name)
    (attributes : List (String × String)) (markups rest : List Markup) :
    elementsWithin name (trees (nested own attributes markups :: rest)) =
      elementsWithin name (trees markups) ++ elementsWithin name (trees rest) := by
  have notNamed : ¬ (nested own attributes markups).tree.isElement name = true := by
    simpa [tree, Tree.isElement] using other
  rw [trees, elementsWithin_cons, if_neg notNamed, tree, Tree.inside]
  rfl

theorem elementsWithin_textProperty_cons (notProperty : "property" ≠ name) {type : String}
    (notType : type ≠ name) (own value : String) (rest : List Markup) :
    elementsWithin name (trees (textProperty type own value :: rest)) =
      elementsWithin name (trees rest) := by
  rw [textProperty, property, elementsWithin_nested_cons notProperty,
    elementsWithin_text_cons notType, elementsWithin_trees_nil, List.nil_append]

end

end FigureForm.Markup
