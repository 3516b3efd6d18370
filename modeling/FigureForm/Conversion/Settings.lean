/-
# Settings of a conversion

What a conversion may be told: the font of the form, how the name of the root variable starts, how
the output is named, and whether icons are written.  The output stands beside the input.
-/

import FigureForm.Figure.Window
import FigureForm.Storage.Path

namespace FigureForm

/-- Settings of a conversion. -/
structure Settings where
  font : FontSpec
  opening : String
  outputSuffix : String
  outputExtension : String
  writeIcons : Bool
  deriving DecidableEq, Repr

/-- Why there is no path for the output. -/
inductive OutputPathFault
  | noFileName
  | noInputFile
  deriving DecidableEq, Repr

/-- What is said when there is no path for the output. -/
def OutputPathFault.message : OutputPathFault → String
  | noFileName => "path has no file name"
  | noInputFile => "input file does not exist"

namespace Settings

/-- The settings of a conversion that is told nothing. -/
def standard : Settings where
  font := .standard
  opening := Figure.standardOpening
  outputSuffix := "_build"
  outputExtension := "ui"
  writeIcons := true

/-- The name of the output for an input with the given stem. -/
def outputName (settings : Settings) (stem : String) : String :=
  stem ++ settings.outputSuffix ++ "." ++ settings.outputExtension

/-- The path of the output for an input. -/
def outputPath (settings : Settings) (input : String) : Except OutputPathFault String :=
  match Path.stem? input with
  | none => .error .noFileName
  | some stem =>
    let name := settings.outputName stem
    match Path.parent? input with
    | some parent => .ok (Path.join parent name)
    | none => .ok name

end Settings

end FigureForm
