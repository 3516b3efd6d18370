/-
# Diagnostics

What a reader of a figure should know although the figure could be turned into a form: components
that were skipped, units that were guessed, icons that are missing.
-/

import FigureForm.Figure.Place

namespace FigureForm

/-- A remark about a figure. -/
inductive Diagnostic
  | unrecognized (place : Place) (type style : String)
  | missingProperties (place : Place)
  | missingPosition (place : Place) (tag : String)
  | unknownUnits (place : Place) (units : String)
  | malformedIcon (place : Place) (action reason : String)
  | missingWindowColor
  | duplicateToolbar (replaced tag : String)
  | iconNotStored (action reason : String)
  deriving DecidableEq, Repr

namespace Diagnostic

/-- What is said. -/
def message : Diagnostic → String
  | unrecognized place type style =>
    place.text ++ ": skipping unrecognized widget (type '" ++ type ++ "', style '" ++ style ++ "')"
  | missingProperties place => place.text ++ ": skipping node without properties"
  | missingPosition place tag =>
    place.text ++ ": skipping '" ++ tag ++ "', Position needs four values"
  | unknownUnits place units =>
    place.text ++ ": unknown units '" ++ units ++ "', assuming pixels"
  | malformedIcon place action reason =>
    place.text ++ ": icon of action '" ++ action ++ "' ignored: " ++ reason
  | missingWindowColor => "window has no Color, background rule omitted"
  | duplicateToolbar replaced tag =>
    "toolbar '" ++ tag ++ "' replaces earlier toolbar '" ++ replaced ++ "'"
  | iconNotStored action reason => "icon of action '" ++ action ++ "' not written: " ++ reason

end Diagnostic

/-- A value and the remarks made on the way to it, in the order in which they were made. -/
structure Noted (α : Type) where
  value : α
  notes : List Diagnostic

namespace Noted

/-- A single remark. -/
def remark (diagnostic : Diagnostic) : Noted Unit :=
  ⟨(), [diagnostic]⟩

instance : Monad Noted where
  pure value := ⟨value, []⟩
  bind first next := ⟨(next first.value).value, first.notes ++ (next first.value).notes⟩

variable {α β : Type}

@[simp]
theorem value_pure (a : α) : (pure a : Noted α).value = a :=
  rfl

@[simp]
theorem notes_pure (a : α) : (pure a : Noted α).notes = [] :=
  rfl

@[simp]
theorem value_bind (first : Noted α) (next : α → Noted β) :
    (first >>= next).value = (next first.value).value :=
  rfl

@[simp]
theorem notes_bind (first : Noted α) (next : α → Noted β) :
    (first >>= next).notes = first.notes ++ (next first.value).notes :=
  rfl

end Noted

end FigureForm
