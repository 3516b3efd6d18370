/-
# Searching by halves

A search over numbered places that asks at each place on which side the target lies: `lt` when the
place is in front of it, `gt` when it is behind, and `eq` when the place hits.  Where the answers
ascend both searches find a hit if there is one.  They differ when several places hit: the first
stops at the hit that it meets, the second goes on to the right.
-/

namespace FigureForm.Bisection

/-- The place from `low` up to `high` that is met first.  A place without an answer ends the
search. -/
def find? (side : Nat → Option Ordering) (low high : Nat) : Option Nat :=
  if low < high then
    match side ((low + high) / 2) with
    | some .lt => find? side ((low + high) / 2 + 1) high
    | some .gt => find? side low ((low + high) / 2)
    | some .eq => some ((low + high) / 2)
    | none => none
  else none
termination_by high - low

/-- The place that is left of as many as `size` from `base` on, when every place that is not
behind the target moves the search to itself. -/
def narrow (side : Nat → Option Ordering) (base size : Nat) : Option Nat :=
  if 1 < size then
    match side (base + size / 2) with
    | some .gt => narrow side base (size - size / 2)
    | some _ => narrow side (base + size / 2) (size - size / 2)
    | none => none
  else some base
termination_by size

/-- The last of adjacent hits among the first `size` places. -/
def findLast? (side : Nat → Option Ordering) (size : Nat) : Option Nat := do
  if size = 0 then none
  let place ← narrow side 0 size
  if side place = some .eq then some place else none

end FigureForm.Bisection
