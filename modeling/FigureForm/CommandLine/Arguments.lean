/-
# Command-line arguments

Inputs and options in any order.  An option with a value takes it from behind an equals sign or
from the next argument, which must not look like an option itself; no option may be given twice;
and after two dashes everything is an input.  The module stands in the place of an outside library,
which is no part of the program, and its rules are those of that library.
-/

import FigureForm.Conversion.Settings

namespace FigureForm.CommandLine

/-- What the command line asks for. -/
structure Arguments where
  inputs : List String
  fontFamily : String
  pointSize : UInt32
  noIcons : Bool
  dumpTree : Bool
  fixedMetrics : Bool
  opening : String
  deriving DecidableEq, Repr

/-- The options. -/
inductive CommandOption
  | fontFamily
  | pointSize
  | noIcons
  | dumpTree
  | fixedMetrics
  | opening
  deriving DecidableEq, Repr

/-- Why arguments ask for nothing. -/
inductive UsageFault
  | noInput
  | emptyInput
  | unknownOption (text : String)
  | missingValue (option : CommandOption)
  | unexpectedValue (option : CommandOption)
  | repeatedOption (option : CommandOption)
  | invalidValue (option : CommandOption) (text : String)
  deriving DecidableEq, Repr

namespace CommandOption

/-- How an option is written. -/
def word : CommandOption → String
  | fontFamily => "--font-family"
  | pointSize => "--point-size"
  | noIcons => "--no-icons"
  | dumpTree => "--dump-tree"
  | fixedMetrics => "--fixed-metrics"
  | opening => "--root-prefix"

/-- Every option. -/
def all : List CommandOption :=
  [fontFamily, pointSize, noIcons, dumpTree, fixedMetrics, opening]

/-- The option that is written like this. -/
def ofWord? (word : String) : Option CommandOption :=
  all.find? fun option => option.word == word

/-- Whether an option has a value. -/
def takesValue : CommandOption → Bool
  | fontFamily | pointSize | opening => true
  | noIcons | dumpTree | fixedMetrics => false

end CommandOption

/-- What is said about arguments that ask for nothing. -/
def UsageFault.message : UsageFault → String
  | noInput => "an input is required"
  | emptyInput => "an input must not be empty"
  | unknownOption text => "unexpected argument '" ++ text ++ "'"
  | missingValue option => "a value is required for '" ++ option.word ++ "'"
  | unexpectedValue option => "no value is taken by '" ++ option.word ++ "'"
  | repeatedOption option => "'" ++ option.word ++ "' cannot be given more than once"
  | invalidValue option text => "invalid value '" ++ text ++ "' for '" ++ option.word ++ "'"

/-- The whole number that decimal digits say, which a sign may precede. -/
def wholeNumber? (text : String) : Option Int :=
  let digits? (letters : List Char) : Option Nat :=
    if letters.isEmpty || !letters.all Char.isDigit then none
    else some (letters.foldl (fun total c => total * 10 + (c.toNat - '0'.toNat)) 0)
  match text.toList with
  | '-' :: letters => (digits? letters).map fun size => -(size : Int)
  | '+' :: letters => (digits? letters).map fun size => (size : Int)
  | letters => (digits? letters).map fun size => (size : Int)

/-- A point size, which has 32 bits. -/
def pointSize? (text : String) : Option UInt32 := do
  let value ← wholeNumber? text
  if 0 ≤ value ∧ value < UInt32.size then some (UInt32.ofNat value.toNat) else none

/-- Whether an argument can only be an option.  A single dash is a value. -/
def looksLikeOption (argument : String) : Bool :=
  match argument.toList with
  | '-' :: _ :: _ => true
  | _ => false

/-- The parts in front of and behind the first equals sign. -/
def splitEquals (argument : String) : String × Option String :=
  let letters := argument.toList
  match letters.dropWhile (· ≠ '=') with
  | [] => (argument, none)
  | _ :: value => (String.ofList (letters.takeWhile (· ≠ '=')), some (String.ofList value))

/-- What a command line without arguments would ask for. -/
def Arguments.standard : Arguments where
  inputs := []
  fontFamily := FontSpec.standard.family
  pointSize := FontSpec.standard.pointSize
  noIcons := false
  dumpTree := false
  fixedMetrics := false
  opening := Figure.standardOpening

/-- The arguments with a value given to an option. -/
def Arguments.give (arguments : Arguments) (option : CommandOption) (value : String) :
    Except UsageFault Arguments :=
  match option with
  | .fontFamily => .ok { arguments with fontFamily := value }
  | .opening => .ok { arguments with opening := value }
  | .pointSize =>
    match pointSize? value with
    | some pointSize => .ok { arguments with pointSize }
    | none => .error (.invalidValue option value)
  | .noIcons => .ok { arguments with noIcons := true }
  | .dumpTree => .ok { arguments with dumpTree := true }
  | .fixedMetrics => .ok { arguments with fixedMetrics := true }

/-- The arguments with one more input. -/
def Arguments.addInput (arguments : Arguments) (input : String) : Except UsageFault Arguments :=
  if input.isEmpty then .error .emptyInput
  else .ok { arguments with inputs := arguments.inputs ++ [input] }

/-- Adds inputs. -/
def Arguments.addInputs (arguments : Arguments) : List String → Except UsageFault Arguments
  | [] => .ok arguments
  | input :: rest => do (← arguments.addInput input).addInputs rest

/-- Reads what is left of the command line, given the options that were read before. -/
def readArguments (arguments : Arguments) (given : List CommandOption) :
    List String → Except UsageFault Arguments
  | [] => .ok arguments
  | "--" :: inputs => arguments.addInputs inputs
  | argument :: rest =>
    if looksLikeOption argument then
      let (word, value) := splitEquals argument
      match CommandOption.ofWord? word with
      | none => .error (.unknownOption argument)
      | some option =>
        if option ∈ given then .error (.repeatedOption option)
        else if option.takesValue then
          match value with
          | some value => do
            readArguments (← arguments.give option value) (option :: given) rest
          | none =>
            match rest with
            | [] => .error (.missingValue option)
            | value :: rest =>
              if looksLikeOption value then .error (.missingValue option)
              else do readArguments (← arguments.give option value) (option :: given) rest
        else if value.isSome then .error (.unexpectedValue option)
        else do readArguments (← arguments.give option "") (option :: given) rest
    else do readArguments (← arguments.addInput argument) given rest

/-- What a command line asks for. -/
def parse (argumentTexts : List String) : Except UsageFault Arguments := do
  let arguments ← readArguments .standard [] argumentTexts
  if arguments.inputs.isEmpty then .error .noInput else return arguments

end FigureForm.CommandLine
