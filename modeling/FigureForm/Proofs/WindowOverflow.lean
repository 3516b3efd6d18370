/-
# Figures whose building overflows

Rounding never fails, since it goes to the ends of the range of coordinates; the sums and opposites
of enclosure do.  `formOf_overflows_iff` says in whole numbers which figures have no form because of
that: those with a frame and a widget behind no earlier frame that overflow.  All other figures have
a form, or a fault that names what their root lacks.
-/

import FigureForm.Proofs.Window

namespace FigureForm.Figure

/-- Building the form of a dump overflows exactly when its root is usable and somewhere in the window
there are a widget and a frame, with no frame before it that holds the widget, for which the test or
the move overflows. -/
theorem formOf_overflows_iff (options : FormOptions) (dump : Dump) :
    (∃ cause, formOf options dump = .error (.overflow cause)) ↔
      ∃ root, IsRoot options dump root ∧
        ∃ node ∈ root.others options, ∃ index frame,
          (root.frames options)[index]? = some frame ∧
          (∀ first, holder? (root.frames options) node = some first → index ≤ first) ∧
          Rectangle.Overflows frame.geometry node.geometry := by
  rw [formOf_eq_overflow_iff]
  apply exists_congr
  intro root
  apply and_congr_right
  intro _
  apply exists_congr
  intro node
  apply and_congr_right
  intro _
  unfold Fits
  constructor
  · intro overflows
    simp only [Classical.not_forall, Classical.not_not] at overflows
    obtain ⟨index, frame, found, isFrame, upToFirst, overflows⟩ := overflows
    exact ⟨index, frame, found, upToFirst, overflows⟩
  · rintro ⟨index, frame, found, upToFirst, overflows⟩ fits
    have isFrame : frame.isFrame = true :=
      (List.mem_filter.mp (List.mem_of_getElem? found)).2
    exact fits index frame found isFrame upToFirst overflows

/-- A control whose right edge lies beyond the range of coordinates, behind a panel. -/
def farControl : Dump :=
  windowDump "pixels"
    [placedComponent "uipanel" "panel" [0, 0, 50, 50],
      placedComponent "uicontrol" "far" [2147483647, 5, 2, 2]]

/-- The sum for the right edge of a far control is no coordinate, and there is no form. -/
theorem formOf_farControl : formOf usualOptions farControl = .error (.overflow .addition) := by
  have fault : fault? (formOf usualOptions farControl) = some (.overflow .addition) := by
    decide +kernel
  exact fault?_eq_some_iff.mp fault

end FigureForm.Figure
