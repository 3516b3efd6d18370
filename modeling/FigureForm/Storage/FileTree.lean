/-
# File trees

Files and directories below a root, with a working directory from which relative paths start.
Every operation resolves its path segment by segment and either has its effect or gives the reason
why not; only the creation of several directories may stop half way, and then it says so and keeps
the directories that it made.
-/

import FigureForm.Storage.Path

namespace FigureForm

/-- Why a file operation failed. -/
inductive FileFault
  | notFound
  | alreadyExists
  | notDirectory
  | isDirectory
  | nameTooLong
  | zeroCharacter
  | notText
  deriving DecidableEq, Repr

/-- What is said about a failed file operation. -/
def FileFault.message : FileFault → String
  | notFound => "No such file or directory (os error 2)"
  | alreadyExists => "File exists (os error 17)"
  | notDirectory => "Not a directory (os error 20)"
  | isDirectory => "Is a directory (os error 21)"
  | nameTooLong => "File name too long (os error 36)"
  | zeroCharacter => "file name contained an unexpected NUL byte"
  | notText => "stream did not contain valid UTF-8"

/-- The names on the way from the root. -/
abbrev Location := List String

/-- What stands at a location. -/
inductive FileEntry
  | directory
  | file (content : ByteArray)

/-- Contents are compared byte by byte. -/
instance : DecidableEq FileEntry
  | .directory, .directory => isTrue rfl
  | .directory, .file _ => isFalse nofun
  | .file _, .directory => isFalse nofun
  | .file first, .file second =>
    decidable_of_iff (first.data = second.data) (by
      rw [FileEntry.file.injEq]
      exact ⟨ByteArray.ext, congrArg ByteArray.data⟩)

/-- Files and directories with a working directory. -/
structure FileTree where
  workingDirectory : Location
  entries : List (Location × FileEntry)
  deriving DecidableEq

namespace FileTree

/-- The tree of a working directory with nothing in it. -/
def ofWorkingDirectory (location : Location) : FileTree :=
  ⟨location, (List.range location.length).map fun depth => (location.take (depth + 1), .directory)⟩

/-- The entry listed for a location. -/
def find? (location : Location) : List (Location × FileEntry) → Option FileEntry
  | [] => none
  | (other, entry) :: rest => if other = location then some entry else find? location rest

/-- Lists an entry for a location in the place of the one that is there. -/
def put (location : Location) (entry : FileEntry) :
    List (Location × FileEntry) → List (Location × FileEntry)
  | [] => [(location, entry)]
  | (other, old) :: rest =>
    if other = location then (location, entry) :: rest else (other, old) :: put location entry rest

/-- What stands at a location; the root is always a directory. -/
def get? (tree : FileTree) (location : Location) : Option FileEntry :=
  if location = [] then some .directory else find? location tree.entries

/-- The tree with an entry set. -/
def set (tree : FileTree) (location : Location) (entry : FileEntry) : FileTree :=
  { tree with entries := put location entry tree.entries }

theorem find?_put (location other : Location) (entry : FileEntry)
    (entries : List (Location × FileEntry)) :
    find? other (put location entry entries) =
      if location = other then some entry else find? other entries := by
  induction entries with
  | nil => simp [put, find?]
  | cons first rest ih =>
    obtain ⟨present, old⟩ := first
    unfold put
    split
    next same => subst same; simp only [find?]; split <;> rfl
    next differs =>
      simp only [find?, ih]
      split
      next same => subst same; simp [Ne.symm differs]
      next => rfl

/-- An entry that was set is there, and the others are as they were. -/
theorem get?_set (tree : FileTree) {location : Location} (h : location ≠ []) (other : Location)
    (entry : FileEntry) :
    (tree.set location entry).get? other =
      if location = other then some entry else tree.get? other := by
  unfold get? set
  by_cases root : other = []
  · subst root
    simp [h]
  · simp only [root, if_false, find?_put]

/-! ## Resolving paths -/

/-- Names have at most this many bytes. -/
def longestName : Nat := 255

/-- Paths have fewer bytes than this. -/
def pathLimit : Nat := 4096

/-- The entry that a name stands for in the directory at a location. -/
def lookup (tree : FileTree) (location : Location) (name : String) : Except FileFault FileEntry :=
  if longestName < name.utf8ByteSize then .error .nameTooLong
  else match tree.get? (location ++ [name]) with
    | some entry => .ok entry
    | none => .error .notFound

/-- The location of the directory that segments lead to. -/
def walk (tree : FileTree) (location : Location) : List (List Char) → Except FileFault Location
  | [] => .ok location
  | segment :: rest =>
    if Path.isSilent segment then walk tree location rest
    else if segment = ['.', '.'] then walk tree location.dropLast rest
    else do
      let name := String.ofList segment
      match ← tree.lookup location name with
      | .directory => walk tree (location ++ [name]) rest
      | .file _ => .error .notDirectory

/-- The locations that segments lead through, whatever stands there. -/
def passed (location : Location) : List (List Char) → List Location
  | [] => []
  | segment :: rest =>
    if Path.isSilent segment then passed location rest
    else if segment = ['.', '.'] then passed location.dropLast rest
    else
      let next := location ++ [String.ofList segment]
      next :: passed next rest

/-- Refuses the paths that no file operation takes. -/
def checkPath (path : String) : Except FileFault Unit :=
  if '\x00' ∈ path.toList then .error .zeroCharacter
  else if path.isEmpty then .error .notFound
  else if pathLimit ≤ path.utf8ByteSize then .error .nameTooLong
  else .ok ()

/-- Where the segments of a path start. -/
def startOf (tree : FileTree) (path : String) : Location :=
  if Path.isAbsolute path then [] else tree.workingDirectory

/-- The locations that a path leads through. -/
def locationsOn (tree : FileTree) (path : String) : List Location :=
  passed (tree.startOf path) (Path.segments path)

/-- The last segment of a path and the directory in front of it. -/
structure Target where
  directory : Location
  segment : List Char

/-- The directory of the last segment of a path. -/
def target (tree : FileTree) (path : String) (segments : List (List Char)) :
    Except FileFault Target := do
  checkPath path
  let directory ← tree.walk (tree.startOf path) segments.dropLast
  return ⟨directory, segments.getLast?.getD []⟩

/-- Whether the last segment names an entry of its directory. -/
def Target.isName (target : Target) : Bool :=
  !Path.isSilent target.segment && target.segment != ['.', '.']

/-- The name of the entry. -/
def Target.name (target : Target) : String :=
  String.ofList target.segment

/-- The location of the entry. -/
def Target.location (target : Target) : Location :=
  target.directory ++ [target.name]

/-- The entry that a path stands for. -/
def entryAt (tree : FileTree) (path : String) : Except FileFault FileEntry := do
  let target ← tree.target path (Path.segments path)
  if target.isName then tree.lookup target.directory target.name else .ok .directory

/-- Whether a path stands for a file. -/
def isFile (tree : FileTree) (path : String) : Bool :=
  match tree.entryAt path with
  | .ok (.file _) => true
  | _ => false

/-- Whether a path stands for a directory. -/
def isDirectory (tree : FileTree) (path : String) : Bool :=
  match tree.entryAt path with
  | .ok .directory => true
  | _ => false

/-! ## Reading and writing -/

/-- The content of a file. -/
def read (tree : FileTree) (path : String) : Except FileFault ByteArray := do
  match ← tree.entryAt path with
  | .file content => .ok content
  | .directory => .error .isDirectory

/-- The text in a file. -/
def readText (tree : FileTree) (path : String) : Except FileFault String := do
  match String.fromUTF8? (← tree.read path) with
  | some text => .ok text
  | none => .error .notText

/-- The segments of a path without empty ones at the end. -/
def trimSlashes (segments : List (List Char)) : List (List Char) :=
  (segments.reverse.dropWhile List.isEmpty).reverse

/-- The tree with a file written.  A file that is there is replaced; a path that ends in a slash
asks for a directory. -/
def write (tree : FileTree) (path : String) (content : ByteArray) : Except FileFault FileTree := do
  let segments := Path.segments path
  let trimmed := trimSlashes segments
  let target ← tree.target path trimmed
  if !target.isName || trimmed.length < segments.length then .error .isDirectory
  else match tree.lookup target.directory target.name with
    | .ok .directory => .error .isDirectory
    | .ok (.file _) | .error .notFound => .ok (tree.set target.location (.file content))
    | .error fault => .error fault

/-- The tree with one more directory. -/
def makeDirectory (tree : FileTree) (path : String) : Except FileFault FileTree := do
  let target ← tree.target path (trimSlashes (Path.segments path))
  if target.isName then
    match tree.lookup target.directory target.name with
    | .ok _ => .error .alreadyExists
    | .error .notFound => .ok (tree.set target.location .directory)
    | .error fault => .error fault
  else .error .alreadyExists

/-- A tree and whether an operation on it succeeded. -/
abbrev Attempt := FileTree × Except FileFault Unit

/-- Makes a directory, and takes one that is already there. -/
def ensureDirectory (tree : FileTree) (path : String) : Attempt :=
  match tree.makeDirectory path with
  | .ok extended => (extended, .ok ())
  | .error fault => (tree, if tree.isDirectory path then .ok () else .error fault)

/-- Makes the directory of a first segment and the later ones, last first.  The directories above it
are made when it cannot be reached without them. -/
def makeDirectoriesTo (tree : FileTree) (first : List Char) : List (List Char) → Attempt
  | [] => tree.ensureDirectory (Path.ofReversed first [])
  | segment :: above =>
    if Path.isSilent segment then makeDirectoriesTo tree first above
    else
      let path := Path.ofReversed first (segment :: above)
      match tree.makeDirectory path with
      | .error .notFound =>
        match makeDirectoriesTo tree first above with
        | (extended, .ok ()) => extended.ensureDirectory path
        | failed => failed
      | _ => tree.ensureDirectory path

/-- Makes a directory and all that are missing above it. -/
def makeDirectories (tree : FileTree) (path : String) : Attempt :=
  if path.isEmpty then (tree, .ok ())
  else match Path.segments path with
    | [] => (tree, .ok ())
    | first :: rest => tree.makeDirectoriesTo first rest.reverse

/-- The entries of a tree that an earlier tree does not have like this. -/
def changesSince (tree earlier : FileTree) : List (Location × FileEntry) :=
  tree.entries.filter fun (location, entry) => earlier.get? location != some entry

/-- The entries below the working directory, under their paths from there. -/
def below (tree : FileTree) : List (Location × FileEntry) :=
  let depth := tree.workingDirectory.length
  tree.entries.filterMap fun (location, entry) =>
    if location.take depth = tree.workingDirectory ∧ depth < location.length then
      some (location.drop depth, entry)
    else none

end FileTree

end FigureForm
