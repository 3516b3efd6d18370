/-
# Texts taken apart at a separator

`split` cuts a text at every occurrence of a character, and `join` puts the character back between
the pieces.  A text has one more piece than separators, no piece contains the separator, and joining
the pieces gives the text again.
-/

namespace FigureForm.Pieces

/-- The pieces of a text between the occurrences of a separator. -/
def split (separator : Char) : List Char → List (List Char)
  | [] => [[]]
  | c :: rest =>
    if c = separator then [] :: split separator rest
    else match split separator rest with
      | [] => [[c]]
      | piece :: pieces => (c :: piece) :: pieces

/-- Pieces with a separator between each two of them. -/
def join (separator : Char) : List (List Char) → List Char
  | [] => []
  | [piece] => piece
  | piece :: next :: pieces => piece ++ separator :: join separator (next :: pieces)

theorem split_ne_nil (separator : Char) (text : List Char) : split separator text ≠ [] := by
  cases text with
  | nil => simp [split]
  | cons c rest =>
    unfold split
    split
    · simp
    · split <;> simp

/-- Joining the pieces of a text gives the text. -/
theorem join_split (separator : Char) (text : List Char) :
    join separator (split separator text) = text := by
  induction text with
  | nil => rfl
  | cons c rest ih =>
    unfold split
    split
    next same =>
      cases pieces : split separator rest with
      | nil => exact absurd pieces (split_ne_nil separator rest)
      | cons piece more => rw [pieces] at ih; simp [join, ih, same]
    next =>
      split
      next none => exact absurd none (split_ne_nil separator rest)
      next piece more pieces =>
        rw [pieces] at ih
        cases more with
        | nil => simpa [join] using ih
        | cons next others => simpa [join] using ih

/-- No piece contains the separator. -/
theorem not_mem_of_mem_split {separator : Char} {text piece : List Char}
    (h : piece ∈ split separator text) : separator ∉ piece := by
  induction text generalizing piece with
  | nil => simp_all [split]
  | cons c rest ih =>
    unfold split at h
    split at h
    next =>
      cases h with
      | head => simp
      | tail _ later => exact ih later
    next differs =>
      split at h
      next none => exact absurd none (split_ne_nil separator rest)
      next first more pieces =>
        rw [pieces] at ih
        cases h with
        | head =>
          have := ih List.mem_cons_self
          simp [Ne.symm differs, this]
        | tail _ later => exact ih (List.mem_cons_of_mem _ later)

end FigureForm.Pieces
