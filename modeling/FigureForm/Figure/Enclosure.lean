/-
# Widgets inside frames

A widget that a figure places beside its frames may still lie inside one of them.  `enclose` moves
every such widget into the first frame that contains it and leaves the others where they are.  The
edges of rectangles may overflow, and then there is no result.
-/

import FigureForm.Widget.Node

namespace FigureForm.Figure

/-- Takes out of a pool the widgets inside an area, as seen from its corner.  The result is what was
taken and what is left, both in the order of the pool. -/
def takeInside (area : Rectangle) :
    List WidgetNode → Except Overflow (List WidgetNode × List WidgetNode)
  | [] => .ok ([], [])
  | node :: rest => do
    if ← area.contains node.geometry then
      let geometry ← node.geometry.relativeTo area.origin
      let (taken, left) ← takeInside area rest
      return ({ node with geometry } :: taken, left)
    else
      let (taken, left) ← takeInside area rest
      return (taken, node :: left)

/-- The frames, each with the widgets inside it appended to its children, followed by the widgets
inside none. -/
def enclose : List WidgetNode → List WidgetNode → Except Overflow (List WidgetNode)
  | [], others => .ok others
  | frame :: frames, others =>
    if frame.isFrame then do
      let (taken, left) ← takeInside frame.geometry others
      let nodes ← enclose frames left
      return { frame with children := frame.children ++ taken } :: nodes
    else do
      let nodes ← enclose frames others
      return frame :: nodes

end FigureForm.Figure
