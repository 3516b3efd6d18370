/-
# What a terminal shows of a text

Besides what it shows, a text may hold control characters and the sequences that an escape character
opens, and these steer the terminal.  `visible` leaves them out, so that a text from elsewhere can
be quoted without changing how the rest is shown.  Tabs and the ends of lines and pages stay.  A
text without control characters is visible as a whole, and what is visible has none but those.

Spacing is shown inside an escape as well, and with it the signs behind it: the run lasts to the
next control character, where the escape goes on unless a sign beyond ASCII has ended it.  These are
the rules of an outside library that prints the log; the module stands in its place.
-/

namespace FigureForm.Terminal

/-- A control character that only moves to another column, line or page. -/
def isSpacing (c : Char) : Bool :=
  c = '\t' || c = '\n' || c = '\x0c' || c = '\r'

/-- A character that a terminal has a sign for. -/
def isSign (c : Char) : Bool :=
  ' ' ≤ c && c ≠ '\x7f'

/-- What a terminal takes the next character for. -/
inductive Mode
  /-- A part of the text. -/
  | text
  /-- What says which sequence an escape character opens. -/
  | escape
  /-- A part of an escape that has begun with a mark. -/
  | marked
  /-- A part of a sequence of numbers that a letter ends. -/
  | sequence
  /-- A part of a command that a bell ends. -/
  | command
  /-- The beginning of the head of a message to a device. -/
  | head
  /-- A part of a head that has begun with a number. -/
  | numberedHead
  /-- A part of a head in which a mark has ended the numbers. -/
  | markedHead
  /-- A part of a message that a terminator ends. -/
  | message
  deriving DecidableEq, Repr

namespace Mode

/-- The byte of a string terminator is among those of the character. -/
def holdsTerminator (c : Char) : Bool :=
  (String.singleton c).toUTF8.toList.contains 0x9c

/-- The mode behind a character of an escape. -/
def behindEscape (c : Char) : Mode :=
  if c = '[' then sequence
  else if c = ']' then command
  else if c = 'P' then head
  else if c = 'X' ∨ c = '^' ∨ c = '_' then message
  else if ' ' ≤ c ∧ c ≤ '/' then marked
  else if '0' ≤ c ∧ c ≤ '~' then text
  else escape

/-- The mode behind a character of a head that is in a mode. -/
def behindHead (mode : Mode) (c : Char) : Mode :=
  if ' ' ≤ c ∧ c ≤ '/' then markedHead
  else if '@' ≤ c ∧ c ≤ '~' then message
  else if '0' ≤ c ∧ c ≤ '?' then
    if mode = head ∨ mode = numberedHead ∧ c ≤ ';' then numberedHead else message
  else mode

/-- The mode behind a character that is not shown.  An escape character opens a sequence in every
mode, and a cancelled sequence is over. -/
def next (mode : Mode) (c : Char) : Mode :=
  if c = '\x1b' then escape
  else if c = '\x18' ∨ c = '\x1a' then text
  else match mode with
    | text => text
    | escape => behindEscape c
    | marked => if '0' ≤ c ∧ c ≤ '~' then text else marked
    | sequence => if '@' ≤ c ∧ c ≤ '~' then text else sequence
    | command => if c = '\x07' then text else command
    | head | numberedHead | markedHead => mode.behindHead c
    | message => if holdsTerminator c then text else message

/-- Whether a character is shown behind one that is not.  Spacing belongs to no escape, but to a
command or a message. -/
def shows : Mode → Char → Bool
  | text, c => isSpacing c || isSign c
  | escape, c | marked, c | sequence, c => isSpacing c
  | command, _ | head, _ | numberedHead, _ | markedHead, _ | message, _ => false

end Mode

/-- How far a terminal has come: what it is reading, and whether it has just shown a character. -/
structure Reader where
  mode : Mode
  showing : Bool
  deriving DecidableEq, Repr

namespace Reader

/-- A reader in front of a text. -/
def start : Reader :=
  ⟨.text, true⟩

/-- Whether a character is shown. -/
def shows (reader : Reader) (c : Char) : Bool :=
  if reader.showing then isSpacing c || isSign c else reader.mode.shows c

/-- The reader behind a character. -/
def next (reader : Reader) (c : Char) : Reader :=
  if reader.shows c then ⟨if c ≤ '\x7f' then reader.mode else .text, true⟩
  else ⟨reader.mode.next c, false⟩

end Reader

/-- What a reader shows of a text. -/
def visibleTo : Reader → List Char → List Char
  | _, [] => []
  | reader, c :: rest =>
    let others := visibleTo (reader.next c) rest
    if reader.shows c then c :: others else others

/-- What is shown of a text. -/
def visible (text : List Char) : List Char :=
  visibleTo .start text

theorem Reader.isSpacing_or_isSign_of_shows {reader : Reader} {c : Char} (h : reader.shows c) :
    isSpacing c || isSign c := by
  unfold shows at h
  split at h
  · exact h
  · cases held : reader.mode <;> simp_all [Mode.shows]

theorem isSpacing_or_isSign_of_mem_visibleTo {reader : Reader} {text : List Char} {c : Char}
    (h : c ∈ visibleTo reader text) : isSpacing c || isSign c := by
  induction text generalizing reader with
  | nil => simp [visibleTo] at h
  | cons first rest ih =>
    unfold visibleTo at h
    split at h
    next shown =>
      cases h with
      | head => exact Reader.isSpacing_or_isSign_of_shows shown
      | tail _ later => exact ih later
    next => exact ih h

/-- What is visible has no control character that does more than spacing. -/
theorem isSpacing_or_isSign_of_mem_visible {text : List Char} {c : Char} (h : c ∈ visible text) :
    isSpacing c || isSign c :=
  isSpacing_or_isSign_of_mem_visibleTo h

theorem Reader.shows_start {c : Char} : start.shows c = (isSpacing c || isSign c) :=
  rfl

theorem Reader.next_start {c : Char} (h : start.shows c) : start.next c = start := by
  simp only [next, h, if_true]
  split <;> rfl

/-- A text without control characters that do more than spacing is visible as a whole. -/
theorem visible_eq_self {text : List Char} (h : ∀ c ∈ text, isSpacing c || isSign c) :
    visible text = text := by
  unfold visible
  induction text with
  | nil => rfl
  | cons first rest ih =>
    have shown : Reader.start.shows first := h first List.mem_cons_self
    have others := ih fun c later => h c (List.mem_cons_of_mem first later)
    simp only [visibleTo, shown, Reader.next_start shown, others, if_true]

end FigureForm.Terminal
