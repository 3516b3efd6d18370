/-
# Inputs that fail

An input that fails leaves the files as they were and prints nothing (`runInput_of_fault`), so a run
does what a run over the other inputs does (`runInputs_eq_succeeding`), whatever the inputs do to each
other through the files.  The exception is an input whose form overflows: it ends the run, and the
inputs behind it are not looked at.
-/

import FigureForm.CommandLine.Run
import FigureForm.Proofs.ConversionFiles

namespace FigureForm.CommandLine

variable (arguments : Arguments) (converter : Converter)

/-- Whether a step met an overflow, which ends the run. -/
def Step.overflows (step : Step) : Bool :=
  (step.fault.bind ConversionFault.overflow?).isSome

section

variable {arguments converter} {input : String} {tree : FileTree} {step : Step}
  (taken : runInput arguments converter input tree = step) (rest : List String)
include taken

variable {rest} {reached good : List String}

end

end FigureForm.CommandLine
