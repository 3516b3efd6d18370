/-
# Reading markup

A reader of markup documents that knows nothing of how this library lays them out.  It has three
steps.  `decode?` replaces references by the characters that they stand for.  `events?` cuts a text
into tags and the texts between them, one character at a time: `Mode` says where in a tag or a text
the reader stands and `step` how it goes on.  `assemble?` builds the tree with a stack of the
elements that are still open, and a tag that closes anything but the innermost of them ends the
reading without a result.

Blanks that only separate elements are dropped, which the names of the elements decide
(`separatesWithBlanks`).  Declarations, comments and processing instructions are not read.
-/

import FigureForm.Markup.Element

namespace FigureForm.Markup

/-- An element with what stands between its tags, or a text. -/
inductive Tree
  | element (name : String) (attributes : List (String × String)) (inside : List Tree)
  | text (content : String)

/-- A tag, or a text between two tags. -/
inductive Event
  | start (name : String) (attributes : List (String × String))
  | empty (name : String) (attributes : List (String × String))
  | stop (name : String)
  | text (content : String)
  deriving DecidableEq, Repr

/-- Whether a character only separates what stands around it. -/
def isBlank (c : Char) : Bool :=
  c == ' ' || c == '\n' || c == '\t' || c == '\r'

/-- Whether a character may stand in a name, the colon in front of a local name included. -/
def isNameCharacter (c : Char) : Bool :=
  c.isAlphanum || c == '-' || c == '_' || c == ':' || c == '.'

/-! ## References -/

/-- The value of a digit of base sixteen or below, with letters in both cases. -/
def digit? (c : Char) : Option Nat :=
  if c.isDigit then some (c.toNat - '0'.toNat)
  else if 'a' ≤ c ∧ c ≤ 'f' then some (c.toNat - 'a'.toNat + 10)
  else if 'A' ≤ c ∧ c ≤ 'F' then some (c.toNat - 'A'.toNat + 10)
  else none

/-- The number that digits of a base stand for, of which there is at least one. -/
def number? (base : Nat) (digits : List Char) : Option Nat :=
  if digits.isEmpty then none
  else digits.foldlM (fun value c =>
    (digit? c).bind fun digit => if digit < base then some (base * value + digit) else none) 0

/-- The character with a code; surrogates and numbers beyond the last code are none. -/
def character? (code : Nat) : Option Char :=
  if code.isValidChar then some (Char.ofNat code) else none

/-- The character that a reference stands for, without the signs around its name. -/
def reference? : List Char → Option Char
  | ['l', 't'] => some '<'
  | ['g', 't'] => some '>'
  | ['a', 'm', 'p'] => some '&'
  | ['a', 'p', 'o', 's'] => some '\''
  | ['q', 'u', 'o', 't'] => some '"'
  | '#' :: 'x' :: digits => (number? 16 digits).bind character?
  | '#' :: digits => (number? 10 digits).bind character?
  | _ => none

/-- Replaces references.  The first argument is the name of the reference that is being read. -/
def decodeFrom : Option (List Char) → List Char → Option (List Char)
  | none, [] => some []
  | some _, [] => none
  | none, c :: rest =>
    if c = '&' then decodeFrom (some []) rest else (decodeFrom none rest).map (c :: ·)
  | some name, c :: rest =>
    if c = ';' then (reference? name).bind fun meant => (decodeFrom none rest).map (meant :: ·)
    else decodeFrom (some (name ++ [c])) rest

/-- What a text says, with every reference in it replaced; nothing if one is malformed. -/
def decode? (written : List Char) : Option String :=
  (decodeFrom none written).map String.ofList

/-! ## Tags and texts -/

/-- Where the reader stands, with what it has collected there. -/
inductive Mode
  | content (written : List Char)
  | tag
  | stopName (name : List Char)
  | startName (name : List Char)
  | gap (name : String) (attributes : List (String × String))
  | attributeName (name : String) (attributes : List (String × String)) (key : List Char)
  | equals (name : String) (attributes : List (String × String)) (key : String)
  | value (name : String) (attributes : List (String × String)) (key : String)
      (written : List Char)
  | afterValue (name : String) (attributes : List (String × String))
  | slash (name : String) (attributes : List (String × String))

/-- The text between two tags, if there is any. -/
def texts? (written : List Char) : Option (List Event) :=
  if written.isEmpty then some [] else (decode? written).map fun content => [.text content]

/-- How a start tag goes on behind its name or one of its attributes. -/
def stepBehind (events : List Event) (name : String) (attributes : List (String × String))
    (c : Char) : Option (List Event × Mode) :=
  if isBlank c then some (events, .gap name attributes)
  else if c = '/' then some (events, .slash name attributes)
  else if c = '>' then some (events ++ [.start name attributes], .content [])
  else none

/-- One character more, after the events before it. -/
def step : List Event × Mode → Char → Option (List Event × Mode)
  | (events, .content written), c =>
    if c = '<' then (texts? written).map fun texts => (events ++ texts, .tag)
    else some (events, .content (written ++ [c]))
  | (events, .tag), c =>
    if c = '/' then some (events, .stopName [])
    else if isNameCharacter c then some (events, .startName [c])
    else none
  | (events, .stopName name), c =>
    if isNameCharacter c then some (events, .stopName (name ++ [c]))
    else if c = '>' then some (events ++ [.stop (String.ofList name)], .content [])
    else none
  | (events, .startName name), c =>
    if isNameCharacter c then some (events, .startName (name ++ [c]))
    else stepBehind events (String.ofList name) [] c
  | (events, .gap name attributes), c =>
    if isNameCharacter c then some (events, .attributeName name attributes [c])
    else stepBehind events name attributes c
  | (events, .attributeName name attributes key), c =>
    if isNameCharacter c then some (events, .attributeName name attributes (key ++ [c]))
    else if c = '=' then some (events, .equals name attributes (String.ofList key))
    else none
  | (events, .equals name attributes key), c =>
    if c = '"' then some (events, .value name attributes key []) else none
  | (events, .value name attributes key written), c =>
    if c = '"' then
      (decode? written).map fun value =>
        (events, .afterValue name (attributes ++ [(key, value)]))
    else if c = '<' then none
    else some (events, .value name attributes key (written ++ [c]))
  | (events, .afterValue name attributes), c => stepBehind events name attributes c
  | (events, .slash name attributes), c =>
    if c = '>' then some (events ++ [.empty name attributes], .content []) else none

/-- The tags and texts of a document, which ends between tags. -/
def events? (document : List Char) : Option (List Event) :=
  match document.foldlM step ([], .content []) with
  | some (events, .content written) => (texts? written).map (events ++ ·)
  | _ => none

/-! ## Trees -/

/-- The elements in which blanks only separate other elements. -/
def separatesWithBlanks (name : String) : Bool :=
  ["ui", "widget", "property", "rect", "font", "item", "attribute", "action", "customwidgets",
    "customwidget"].contains name

/-- An element that is still open, with what stands before it in the element around it. -/
structure Opened where
  name : String
  attributes : List (String × String)
  before : List Tree

/-- What was read in the innermost open element, and the open elements from the innermost to the
outermost. -/
abbrev Stack := List Tree × List Opened

/-- One tag or text more.  A text counts for nothing where blanks only separate elements, and outside
of all elements no other text may stand. -/
def build : Stack → Event → Option Stack
  | (inside, opened), .start name attributes => some ([], ⟨name, attributes, inside⟩ :: opened)
  | (inside, opened), .empty name attributes =>
    some (inside ++ [.element name attributes []], opened)
  | (inside, innermost :: outer), .stop name =>
    if name = innermost.name then
      some (innermost.before ++ [.element name innermost.attributes inside], outer)
    else none
  | (_, []), .stop _ => none
  | (inside, opened), .text content =>
    match opened with
    | [] => if content.toList.all isBlank then some (inside, []) else none
    | innermost :: _ =>
      if separatesWithBlanks innermost.name && content.toList.all isBlank then some (inside, opened)
      else some (inside ++ [.text content], opened)

/-- The one element of a document. -/
def assemble? (events : List Event) : Option Tree :=
  match events.foldlM build ([], []) with
  | some ([root], []) => some root
  | _ => none

/-- The tree that a document describes. -/
def read? (document : String) : Option Tree :=
  (events? document.toList).bind assemble?

/-- Events in which every start tag is closed by the end tag of the same name, those opened last
first. -/
inductive WellNested : List Event → Prop
  | nil : WellNested []
  | text (content : String) {rest : List Event} (later : WellNested rest) :
      WellNested (.text content :: rest)
  | empty (name : String) (attributes : List (String × String)) {rest : List Event}
      (later : WellNested rest) : WellNested (.empty name attributes :: rest)
  | element (name : String) (attributes : List (String × String)) {inside rest : List Event}
      (inner : WellNested inside) (later : WellNested rest) :
      WellNested (.start name attributes :: inside ++ .stop name :: rest)

example : (events? "<p n=\"a &#65;&amp;\"> <b/>x &lt; y</p>".toList) =
    some [.start "p" [("n", "a A&")], .text " ", .empty "b" [], .text "x < y", .stop "p"] := by
  decide

end FigureForm.Markup
