/-
# The program

Runs the command line on the files of the machine.  A run is a function on a file tree, so it is
tried on the inputs alone to learn which places it changes, then run on a tree that holds these
places as well, and at the end its changes are written back.

The fonts of the machine are not looked up: the database is empty, so that a font without fixed
measures gets approximate ones, with a warning in the log.  The variable that sets the level of the
log has a name of its own here, `FIGURE_LOG`.
-/

import FigureForm.CommandLine.Run
import FigureForm.Font.Database

namespace FigureForm.CommandLine

/-- The absolute path of a location. -/
def pathOf (location : Location) : String :=
  "/" ++ String.intercalate "/" location

/-- Whether there is a directory at a location. -/
def isDirectoryOnDisk (location : Location) : IO Bool := do
  try
    IO.FS.withFile (pathOf location ++ "/.") .read fun _ => return true
  catch _ => return false

/-- What stands at a location. -/
def entryOnDisk? (location : Location) : IO (Option FileEntry) := do
  if ← isDirectoryOnDisk location then return some .directory
  try
    return some (.file (← IO.FS.readBinFile (pathOf location)))
  catch _ => return none

/-- Adds what stands at locations to a tree. -/
def takeOver (locations : List Location) (tree : FileTree) : IO FileTree := do
  let mut tree := tree
  for location in locations do
    if let some entry ← entryOnDisk? location then
      tree := tree.set location entry
  return tree

/-- The working directory with nothing in it. -/
def workingTree : IO FileTree := do
  let names := (Path.components (toString (← IO.currentDir))).filterMap fun component =>
    match component with
    | .name text => some text
    | _ => none
  return .ofWorkingDirectory names

/-- Writes an entry to its location. -/
def writeEntry (location : Location) : FileEntry → IO Unit
  | .directory => IO.FS.createDirAll (pathOf location)
  | .file content => IO.FS.writeBinFile (pathOf location) content

/-- Runs what the arguments ask for and returns the exit status. -/
def runOnDisk (argumentTexts : List String) (inputs : List String) : IO UInt32 := do
  let logLevel ← IO.getEnv "FIGURE_LOG"
  let runOn := run argumentTexts logLevel (FontDatabase.measure [])
  let empty ← workingTree
  let inputTree ← takeOver (inputs.flatMap empty.locationsOn) empty
  let changed := ((runOn inputTree).tree.changesSince inputTree).map Prod.fst
  let before ← takeOver changed inputTree
  let outcome := runOn before
  for (location, entry) in outcome.tree.changesSince before do
    writeEntry location entry
  IO.print outcome.output
  for line in outcome.lines do
    IO.eprintln ("[" ++ line.level.label ++ "] " ++ line.message)
  return UInt32.ofNat outcome.status.code

end FigureForm.CommandLine

open FigureForm.CommandLine in
/-- Runs the arguments of the program. -/
def main (argumentTexts : List String) : IO UInt32 := do
  match parse argumentTexts with
  | .ok arguments => runOnDisk argumentTexts arguments.inputs
  | .error fault =>
    IO.eprintln ("error: " ++ fault.message)
    return UInt32.ofNat ExitStatus.usage.code
