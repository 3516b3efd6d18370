/-
# Dictionaries in the order of their names

Lists of named values that are kept in the order of the names.  `get?_put` says that a value that
was put reads back and that the other names keep theirs.
-/

namespace FigureForm.Dictionary

variable {α : Type}

/-- The value under a name. -/
def get? (name : String) : List (String × α) → Option α
  | [] => none
  | (other, value) :: rest => if other = name then some value else get? name rest

/-- Puts a value at the place of its name, replacing the value that is there. -/
def put (name : String) (value : α) : List (String × α) → List (String × α)
  | [] => [(name, value)]
  | (other, old) :: rest =>
    if other = name then (name, value) :: rest
    else if name < other then (name, value) :: (other, old) :: rest
    else (other, old) :: put name value rest

@[simp]
theorem get?_put (name other : String) (value : α) (entries : List (String × α)) :
    get? other (put name value entries) =
      if name = other then some value else get? other entries := by
  induction entries with
  | nil => simp [put, get?]
  | cons first rest ih =>
    obtain ⟨present, old⟩ := first
    unfold put
    split
    next same => subst same; simp only [get?]; split <;> rfl
    next differs =>
      split
      next => simp only [get?]
      next =>
        simp only [get?, ih]
        split
        next same => subst same; simp [Ne.symm differs]
        next => rfl

end FigureForm.Dictionary
