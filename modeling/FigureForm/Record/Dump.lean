/-
# Dumps in texts and files

Reading a dump from its JSON text, or from a file that holds the text.
-/

import FigureForm.Record.Loading
import FigureForm.Storage.FileTree

namespace FigureForm

/-- Why a dump could not be read. -/
inductive DumpFault
  | file (fault : FileFault)
  | json (fault : Json.Fault)
  | malformed (cause : Malformed)
  deriving DecidableEq, Repr

/-- What is said about a dump that could not be read. -/
def DumpFault.message : DumpFault → String
  | file fault => "I/O error: " ++ fault.message
  | json fault => "JSON parsing error: " ++ fault.message
  | malformed cause => cause.message

namespace Dump

/-- The dump in a text. -/
def ofText (source : String) : Except DumpFault Dump := do
  let json ← (Json.read source).mapError .json
  (ofJson json).mapError .malformed

/-- The dump in a file. -/
def ofFile (tree : FileTree) (path : String) : Except DumpFault Dump := do
  ofText (← (tree.readText path).mapError .file)

end Dump

end FigureForm
