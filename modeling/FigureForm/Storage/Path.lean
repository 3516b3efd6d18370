/-
# Paths

A path is a text whose segments stand between slashes.  Empty segments and single dots say
nothing, except for a dot at the very start and the slash of an absolute path.  `components` lists
what a path says; the parent of a path is the text in front of its last component.
-/

import FigureForm.Text.Pieces

namespace FigureForm.Path

/-- What a segment of a path says. -/
inductive Component
  | root
  | current
  | parent
  | name (text : String)
  deriving DecidableEq, Repr

/-- The texts between the slashes of a path. -/
def segments (path : String) : List (List Char) :=
  Pieces.split '/' path.toList

/-- The path with the given segments. -/
def ofSegments (segments : List (List Char)) : String :=
  String.ofList (Pieces.join '/' segments)

/-- Whether a path starts at the root. -/
def isAbsolute (path : String) : Bool :=
  path.toList.head? == some '/'

/-- Whether a segment after the first says nothing. -/
def isSilent (segment : List Char) : Bool :=
  segment.isEmpty || segment == ['.']

/-- What a segment after the first says. -/
def component? (segment : List Char) : Option Component :=
  if isSilent segment then none
  else if segment = ['.', '.'] then some .parent
  else some (.name (String.ofList segment))

/-- What the first segment says, given whether a slash follows it. -/
def firstComponent? (segment : List Char) (slash : Bool) : Option Component :=
  if segment.isEmpty then (if slash then some .root else none)
  else if segment = ['.'] then some .current
  else component? segment

/-- What a path says, from left to right. -/
def components (path : String) : List Component :=
  match segments path with
  | [] => []
  | first :: rest => (firstComponent? first (!rest.isEmpty)).toList ++ rest.filterMap component?

/-- The last component, if it is a name. -/
def fileName? (path : String) : Option String :=
  match (components path).getLast? with
  | some (.name text) => some text
  | _ => none

/-- The part of a name in front of its last dot, and the part behind it.  A dot at the start of a
name is no such dot. -/
def splitName (name : String) : String × Option String :=
  let pieces := Pieces.split '.' name.toList
  let stem := Pieces.join '.' pieces.dropLast
  if stem.isEmpty then (name, none)
  else (String.ofList stem, pieces.getLast?.map String.ofList)

/-- The file name without its extension. -/
def stem? (path : String) : Option String :=
  (fileName? path).map fun name => (splitName name).1

/-- The extension of the file name. -/
def extension? (path : String) : Option String :=
  (fileName? path).bind fun name => (splitName name).2

/-- Segments, last first, without the silent ones in front. -/
def dropSilent (reversed : List (List Char)) : List (List Char) :=
  reversed.dropWhile isSilent

/-- The path of a first segment and the later ones, last first. -/
def ofReversed (first : List Char) (reversed : List (List Char)) : String :=
  if first.isEmpty ∧ reversed.isEmpty then "/" else ofSegments (first :: reversed.reverse)

/-- The path in front of the last component; a path without components or with the root alone has
none. -/
def parent? (path : String) : Option String :=
  match segments path with
  | [] => none
  | first :: rest =>
    match dropSilent rest.reverse with
    | [] => if first.isEmpty then none else some ""
    | _ :: above => some (ofReversed first (dropSilent above))

/-- A path continued by another one, which replaces it when it is absolute. -/
def join (base path : String) : String :=
  if isAbsolute path then path
  else if base.isEmpty then path
  else if base.toList.getLast? = some '/' then base ++ path
  else base ++ "/" ++ path

example : components "./a//b/../c." = [.current, .name "a", .name "b", .parent, .name "c."] := by
  decide
example : parent? "a//b/./c/" = some "a//b" ∧ parent? "/x" = some "/" ∧ parent? "x" = some "" := by
  decide
example : splitName "a.b.c" = ("a.b", some "c") ∧ splitName ".hidden" = (".hidden", none) := by
  decide

end FigureForm.Path
