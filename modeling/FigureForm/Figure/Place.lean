/-
# Places in a figure

Where a component of a figure stands: a starting text and the indices of the components on the way
down.  Reports name components by the text of their place.
-/

namespace FigureForm

/-- A starting point and the indices of the components below it. -/
structure Place where
  start : String
  indices : List Nat
  deriving DecidableEq, Repr

namespace Place

/-- A starting point itself. -/
def top (start : String) : Place :=
  ⟨start, []⟩

/-- The component at an index among those of a place. -/
def child (place : Place) (index : Nat) : Place :=
  { place with indices := place.indices ++ [index] }

/-- Text of an index. -/
def indexText (index : Nat) : String :=
  "[" ++ toString index ++ "]"

/-- Text of the indices after the first. -/
def deeperText : List Nat → String
  | [] => ""
  | index :: rest => ".children" ++ indexText index ++ deeperText rest

/-- Text of a place. -/
def text (place : Place) : String :=
  match place.indices with
  | [] => place.start
  | index :: rest => place.start ++ indexText index ++ deeperText rest

example : (((Place.top "children").child 3).child 0).text = "children[3].children[0]" := by decide

end Place

end FigureForm
