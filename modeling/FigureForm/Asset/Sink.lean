/-
# Asset sinks

Where the files beside a form go.  A sink is an operation that stores named bytes in a state, and a
question whether a name is stored there.  Two sinks are given: one keeps the assets in memory under
their names, the other writes files below a directory.  Names come from figures and are not to be
trusted, so the second one refuses every name that could lead out of its directory.
-/

import FigureForm.Dictionary
import FigureForm.Storage.FileTree

namespace FigureForm

/-- Why an asset was not stored. -/
inductive AssetFault
  | invalidName (name : String)
  | leavesDirectory (name : String)
  | notStored (name : String) (cause : FileFault)
  | noDirectory (cause : FileFault)
  deriving DecidableEq, Repr

/-- What is said about an asset that was not stored. -/
def AssetFault.message : AssetFault → String
  | invalidName name => "Invalid asset name: " ++ name
  | leavesDirectory name => "Invalid asset name: " ++ name ++ " (path traversal blocked)"
  | notStored name cause => "Failed to store asset '" ++ name ++ "': " ++ cause.message
  | noDirectory cause => "I/O error: " ++ cause.message

/-- A destination for named bytes with a state of the given type. -/
structure AssetSink (σ : Type) where
  name : String
  store : String → ByteArray → σ → σ × Except AssetFault Unit
  isStored : String → σ → Bool

/-- Assets kept under their names. -/
abbrev Assets := List (String × ByteArray)

namespace AssetSink

/-- The sink that keeps assets in memory.  A later asset replaces an earlier one of its name, and
the empty name is refused. -/
def memory : AssetSink Assets where
  name := "InMemoryAssetSink"
  store name content assets :=
    if name.isEmpty then (assets, .error (.invalidName name))
    else (Dictionary.put name content assets, .ok ())
  isStored name assets := (Dictionary.get? name assets).isSome

/-- Whether every component of a path stays where the path starts or goes down from there. -/
def isSafe (path : String) : Bool :=
  (Path.components path).all fun component =>
    match component with
    | .name _ | .current => true
    | .root | .parent => false

/-- The path of a name below a directory; nothing for names that could lead elsewhere. -/
def resolve? (base name : String) : Option String :=
  if name.isEmpty || Path.isAbsolute name || !isSafe name then none
  else some (Path.join base name)

/-- Stores bytes under a name below a directory, which is made if it is missing. -/
def storeBelow (base name : String) (content : ByteArray) (tree : FileTree) :
    FileTree × Except AssetFault Unit :=
  match resolve? base name with
  | none => (tree, .error (.leavesDirectory name))
  | some path =>
    match (match Path.parent? path with
      | some parent => tree.makeDirectories parent
      | none => (tree, .ok ())) with
    | (extended, .error cause) => (extended, .error (.noDirectory cause))
    | (extended, .ok ()) =>
      match extended.write path content with
      | .ok written => (written, .ok ())
      | .error cause => (extended, .error (.notStored name cause))

/-- The sink that writes files below a directory. -/
def directory (base : String) : AssetSink FileTree where
  name := "FilesystemAssetSink"
  store := storeBelow base
  isStored name tree :=
    match resolve? base name with
    | some path => tree.isFile path
    | none => false

end AssetSink

end FigureForm
