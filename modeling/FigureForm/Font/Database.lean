/-
# Measuring fonts from a database

A database holds loaded faces under their family names.  Measuring a font looks its family up,
falls back to a sans-serif face, and remembers the result; loading faces forgets all results,
since a family may now be found elsewhere.

Holding faces with their names and styles, and choosing among them, takes the place of an outside
library, which is no part of the program: the rules are those of that library.  What is remembered
and when it is forgotten is the program's own rule.
-/

import FigureForm.Font.Face
import FigureForm.Font.Names
import FigureForm.Font.Style

namespace FigureForm

/-- A face of a loaded file. -/
structure LoadedFace where
  names : FaceNames
  style : FaceStyle
  content : ByteArray
  index : Nat

/-- Loaded faces, the first loaded first. -/
abbrev FontDatabase := List LoadedFace

namespace FontDatabase

/-- The family that stands in for one that is not loaded. -/
def sansSerif : String :=
  "Arial"

/-- The face with an index in a file, if it has names. -/
def faceOf (content : ByteArray) (index : Nat) : Except Overflow (Option LoadedFace) :=
  match FontFile.ofBytes content index with
  | .ok file =>
    .ok ((FaceNames.read? file).map fun names => ⟨names, FaceStyle.read file, content, index⟩)
  | .error (.overflow cause) => .error cause
  | .error _ => .ok none

/-- The faces of a file that have names. -/
def facesOf (content : ByteArray) : Except Overflow (List LoadedFace) := do
  return (← (List.range (FontFile.faceCount content)).mapM (faceOf content)).reduceOption

/-- The first of the faces whose style is nearest to a regular one. -/
def nearest? : List LoadedFace → Option LoadedFace
  | [] => none
  | face :: faces =>
    match nearest? faces with
    | some nearest =>
      if nearest.style.distance < face.style.distance then some nearest else some face
    | none => some face

/-- The face of a family that is nearest to a regular one. -/
def ofFamily? (faces : FontDatabase) (family : String) : Option LoadedFace :=
  nearest? (faces.filter fun face => face.names.families.contains family)

/-- The measures of a font. -/
def measure (faces : FontDatabase) (font : FontSpec) : Except FontFault FontMetrics :=
  match (faces.ofFamily? font.family).or (faces.ofFamily? sansSerif) with
  | some face => Face.metrics face.content face.index font
  | none => .error (.notFound font)

end FontDatabase

/-- A database and the measures that were taken from it. -/
structure FontMeasurer where
  faces : FontDatabase
  remembered : List (FontSpec × FontMetrics)

namespace FontMeasurer

/-- No faces and no measures. -/
def empty : FontMeasurer :=
  ⟨[], []⟩

/-- What is remembered of a font. -/
def remembered? (measurer : FontMeasurer) (font : FontSpec) : Option FontMetrics :=
  (measurer.remembered.find? fun entry => entry.1 == font).map Prod.snd

/-- Remembers the measures of a font. -/
def remember (measurer : FontMeasurer) (font : FontSpec) (metrics : FontMetrics) : FontMeasurer :=
  { measurer with remembered := (font, metrics) :: measurer.remembered }

/-- Forgets all measures. -/
def forget (measurer : FontMeasurer) : FontMeasurer :=
  { measurer with remembered := [] }

/-- Adds the faces of a file. -/
def addFaces (measurer : FontMeasurer) (content : ByteArray) : Except Overflow FontMeasurer := do
  return { measurer with faces := measurer.faces ++ (← FontDatabase.facesOf content) }

/-- Adds the faces of a file, and forgets what was measured without them. -/
def load (measurer : FontMeasurer) (content : ByteArray) : Except Overflow FontMeasurer :=
  (measurer.addFaces content).map forget

/-- The measures of a font, which are remembered when there are any. -/
def metrics (measurer : FontMeasurer) (font : FontSpec) :
    FontMeasurer × Except FontFault FontMetrics :=
  match measurer.remembered? font with
  | some metrics => (measurer, .ok metrics)
  | none =>
    match measurer.faces.measure font with
    | .ok metrics => (measurer.remember font metrics, .ok metrics)
    | .error fault => (measurer, .error fault)

end FontMeasurer

end FigureForm
