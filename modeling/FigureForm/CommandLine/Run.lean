/-
# Running the command line

Converts the inputs one after another, or prints the outline of each form instead.  An input that
fails is logged and does not keep the others from being converted; an overflow ends the run.
-/

import FigureForm.CommandLine.Arguments
import FigureForm.Conversion.Converter
import FigureForm.Form.Outline

namespace FigureForm.CommandLine

/-- How a run ends. -/
inductive ExitStatus
  | success
  | failure
  | usage
  | aborted
  deriving DecidableEq, Repr

/-- The number of an exit status. -/
def ExitStatus.code : ExitStatus → Nat
  | success => 0
  | failure => 1
  | usage => 2
  | aborted => 101

/-- What a run did: the files, the printed text, the log and the inputs that failed. -/
structure Progress where
  tree : FileTree
  output : List String
  lines : List LogLine
  failed : List String

/-- What a run did and how it ended. -/
structure Outcome where
  tree : FileTree
  output : String
  lines : List LogLine
  status : ExitStatus

/-- The converter that the arguments ask for. -/
def converterOf (arguments : Arguments) (measure : FontMeasure) : Converter where
  settings := { Settings.standard with
    font := ⟨arguments.fontFamily, arguments.pointSize⟩
    opening := arguments.opening
    writeIcons := !arguments.noIcons }
  measure :=
    if arguments.fixedMetrics then .fixed (.approximate arguments.pointSize) else measure

/-- What running one input adds: the files, the printed text, the log, and the fault if it failed.
-/
structure Step where
  tree : FileTree
  output : List String
  lines : List LogLine
  fault : Option ConversionFault

/-- Prints the outline of the form of an input. -/
def dumpInput (converter : Converter) (input : String) (tree : FileTree) : Step :=
  let built := converter.formOfFile tree input
  match built.value with
  | .error fault => ⟨tree, [], built.lines, some fault⟩
  | .ok form =>
    ⟨tree, [form.value.outline.render ++ "\n"],
      built.lines ++ Converter.warningLines input form.notes, none⟩

/-- Converts an input. -/
def convertInput (converter : Converter) (input : String) (tree : FileTree) : Step :=
  let (final, converted) := converter.convertFile input tree
  match converted.value with
  | .error fault => ⟨final, [], converted.lines, some fault⟩
  | .ok _ => ⟨final, [], converted.lines, none⟩

/-- Runs one input as the arguments ask. -/
def runInput (arguments : Arguments) (converter : Converter) (input : String) (tree : FileTree) :
    Step :=
  if arguments.dumpTree then dumpInput converter input tree else convertInput converter input tree

/-- The line about an input that failed. -/
def failureLine (input : String) (fault : ConversionFault) : LogLine :=
  ⟨.error, input ++ ": " ++ fault.message⟩

/-- Runs inputs in order.  The result says as well whether the run came to its end. -/
def runInputs (arguments : Arguments) (converter : Converter) :
    List String → FileTree → Progress × Bool
  | [], tree => (⟨tree, [], [], []⟩, true)
  | input :: rest, tree =>
    let step := runInput arguments converter input tree
    match step.fault with
    | some fault =>
      if fault.overflow?.isSome then (⟨step.tree, step.output, step.lines, [input]⟩, false)
      else
        let (others, finished) := runInputs arguments converter rest step.tree
        (⟨others.tree, step.output ++ others.output,
          step.lines ++ failureLine input fault :: others.lines, input :: others.failed⟩, finished)
    | none =>
      let (others, finished) := runInputs arguments converter rest step.tree
      (⟨others.tree, step.output ++ others.output, step.lines ++ others.lines, others.failed⟩,
        finished)

/-- The line that sums up failed inputs. -/
def summaryLine (failed total : Nat) : LogLine :=
  ⟨.error, toString failed ++ " of " ++ toString total ++ " conversions failed"⟩

/-- Runs what the arguments ask for. -/
def runArguments (arguments : Arguments) (measure : FontMeasure) (tree : FileTree) : Outcome :=
  let (progress, finished) :=
    runInputs arguments (converterOf arguments measure) arguments.inputs tree
  let output := String.join progress.output
  if !finished then ⟨progress.tree, output, progress.lines, .aborted⟩
  else if progress.failed.isEmpty then ⟨progress.tree, output, progress.lines, .success⟩
  else
    let summary := summaryLine progress.failed.length arguments.inputs.length
    ⟨progress.tree, output, progress.lines ++ [summary], .failure⟩

/-- The rank up to which lines are logged when the log is given this level by name. -/
def rankOfName (name : String) : Nat :=
  let word := String.ofList (name.toList.map Char.toLower)
  if word = "" ∨ word = "error" then 1
  else if word = "warn" then 2
  else if word = "info" ∨ word = "debug" ∨ word = "trace" then 3
  else 0

/-- Runs a command line.  The log holds information unless it is given another level. -/
def run (argumentTexts : List String) (logLevel : Option String) (measure : FontMeasure)
    (tree : FileTree) : Outcome :=
  match parse argumentTexts with
  | .error _ => ⟨tree, "", [], .usage⟩
  | .ok arguments =>
    let outcome := runArguments arguments measure tree
    let logged := LogLine.upTo ((logLevel.map rankOfName).getD 3) outcome.lines
    { outcome with lines := logged.map LogLine.onOneLine }

end FigureForm.CommandLine
