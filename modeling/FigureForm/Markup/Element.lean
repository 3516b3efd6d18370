/-
# Markup elements

Trees of elements as the written form needs them: an element is empty, holds one text, or holds
further elements.  `Markup.render` lays a tree out with one element on a line and one space of
indentation for each level; text stays on the line of its element, so that no blank is added to it.
-/

namespace FigureForm

/-- A markup element. -/
inductive Markup
  | empty (name : String) (attributes : List (String × String))
  | text (name : String) (attributes : List (String × String)) (content : String)
  | nested (name : String) (attributes : List (String × String)) (elements : List Markup)

namespace Markup

/-- How a character is written in texts and attribute values. -/
def escapeCharacter : Char → List Char
  | '<' => "&lt;".toList
  | '>' => "&gt;".toList
  | '&' => "&amp;".toList
  | '\'' => "&apos;".toList
  | '"' => "&quot;".toList
  | other => [other]

/-- How a text is written. -/
def escape (text : String) : List Char :=
  text.toList.flatMap escapeCharacter

/-- An attribute with the blank in front of it. -/
def renderAttribute : String × String → List Char
  | (name, value) => ' ' :: name.toList ++ '=' :: '"' :: escape value ++ ['"']

/-- The start of a tag up to its attributes. -/
def openTag (name : String) (attributes : List (String × String)) : List Char :=
  '<' :: name.toList ++ attributes.flatMap renderAttribute

/-- An end tag. -/
def closeTag (name : String) : List Char :=
  '<' :: '/' :: name.toList ++ ['>']

/-- A line break and the indentation of a level. -/
def lineBreak (level : Nat) : List Char :=
  '\n' :: List.replicate level ' '

mutual

/-- An element at a level, without the line break in front of it. -/
def renderAt (level : Nat) : Markup → List Char
  | empty name attributes => openTag name attributes ++ ['/', '>']
  | text name attributes content =>
    openTag name attributes ++ '>' :: escape content ++ closeTag name
  | nested name attributes elements =>
    openTag name attributes ++ '>' :: renderAllAt (level + 1) elements ++ lineBreak level ++
      closeTag name

/-- Elements at a level, each on a line of its own. -/
def renderAllAt (level : Nat) : List Markup → List Char
  | [] => []
  | element :: rest => lineBreak level ++ renderAt level element ++ renderAllAt level rest

end

/-- The text of an element. -/
def render (element : Markup) : String :=
  String.ofList (element.renderAt 0)

/-- The line that a document begins with. -/
def declaration : String :=
  "<?xml version=\"1.0\" encoding=\"UTF-8\"?>"

/-- The document with a root element. -/
def document (root : Markup) : String :=
  declaration ++ "\n" ++ root.render

end Markup

end FigureForm
