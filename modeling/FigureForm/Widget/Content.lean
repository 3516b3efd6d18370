/-
# Text of widgets

A widget carries nothing, one text or a list of entries.  A menu's entries may come as one text with
vertical bars between them; `separated` takes such a text apart.
-/

import FigureForm.Text.Pieces

namespace FigureForm

/-- The text of a widget. -/
inductive Content
  | none
  | single (text : String)
  | entries (texts : List String)
  deriving DecidableEq, Repr

namespace Content

/-- Whether there is nothing to show. -/
def isEmpty : Content → Bool
  | none => true
  | single text => text.isEmpty
  | entries texts => texts.isEmpty

/-- The text as one line, with a space between entries. -/
def joined : Content → String
  | none => ""
  | single text => text
  | entries texts => String.intercalate " " texts

/-- The text as entries. -/
def items : Content → List String
  | none => []
  | single text => [text]
  | entries texts => texts

/-- One text taken apart at its vertical bars. -/
def separated : Content → Content
  | single text => entries ((Pieces.split '|' text.toList).map String.ofList)
  | other => other

/-- Entries stay as they are. -/
theorem separated_separated (content : Content) :
    content.separated.separated = content.separated := by
  cases content <;> rfl

end Content

end FigureForm
