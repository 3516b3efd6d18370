/-
# Conversions

A converter turns a dump into a form, writes the form and stores the icons of its actions.  A
conversion of a file reads the dump from there and puts everything beside it.  What is written
goes to a storage, an operation for the form and a sink for the icons on one state, so that a
conversion is a function from states to states.
-/

import FigureForm.Asset.Icons
import FigureForm.Conversion.Log
import FigureForm.Conversion.Settings
import FigureForm.Form.Markup
import FigureForm.Record.Dump

namespace FigureForm

/-- Why a conversion failed. -/
inductive ConversionFault
  | noOutputPath (input : String) (fault : OutputPathFault)
  | dump (fault : DumpFault)
  | form (fault : Figure.FormFault)
  | file (fault : FileFault)
  deriving DecidableEq, Repr

/-- What is said about a failed conversion. -/
def ConversionFault.message : ConversionFault → String
  | noOutputPath input fault =>
    "Cannot derive an output path from '" ++ input ++ "': " ++ fault.message
  | dump fault => "Reading the figure failed: " ++ fault.message
  | form fault => "Building the widget tree failed: " ++ fault.message
  | file fault => "I/O error: " ++ fault.message

/-- The overflow that a conversion met, if that is why it failed. -/
def ConversionFault.overflow? : ConversionFault → Option Overflow
  | form (.overflow cause) => some cause
  | _ => none

/-- What a conversion did. -/
structure ConversionReport where
  output : String
  widgets : Nat
  icons : Nat
  diagnostics : List Diagnostic
  deriving DecidableEq, Repr

/-- How fonts are measured. -/
abbrev FontMeasure := FontSpec → Except FontFault FontMetrics

/-- Every font has the same measures. -/
def FontMeasure.fixed (metrics : FontMetrics) : FontMeasure :=
  fun _ => .ok metrics

/-- Settings and a way to measure fonts. -/
structure Converter where
  settings : Settings
  measure : FontMeasure

/-- What was told on the way to a value. -/
structure Logged (α : Type) where
  value : α
  lines : List LogLine

/-- Where a conversion writes: the form to a path, and the icons to a sink. -/
structure Storage (σ : Type) where
  write : String → ByteArray → σ → Except FileFault σ
  sink : AssetSink σ

namespace Storage

/-- Files, with the icons below a directory. -/
def files (base : String) : Storage FileTree where
  write path content tree := tree.write path content
  sink := .directory base

/-- Files for the form, and memory for the icons. -/
def filesAndAssets : Storage (FileTree × Assets) where
  write path content := fun (tree, assets) => do return (← tree.write path content, assets)
  sink := {
    name := AssetSink.memory.name
    store := fun name content (tree, assets) =>
      let (stored, result) := AssetSink.memory.store name content assets
      ((tree, stored), result)
    isStored := fun name (_, assets) => AssetSink.memory.isStored name assets }

end Storage

namespace Converter

variable {σ : Type}

/-- The line about a font that could not be measured. -/
def unmeasuredLine (font : FontSpec) (fault : FontFault) : LogLine :=
  ⟨.warning, "Cannot measure '" ++ font.family ++ "' " ++ toString font.pointSize.toNat ++ "pt (" ++
    fault.message ++ "), using approximate metrics"⟩

/-- The measures of the form's font, which are approximate when it cannot be measured. -/
def fontMetrics (converter : Converter) : Logged FontMetrics :=
  let font := converter.settings.font
  match converter.measure font with
  | .ok metrics => ⟨metrics, []⟩
  | .error fault => ⟨.approximate font.pointSize, [unmeasuredLine font fault]⟩

/-- The form that a dump describes. -/
def formOf (converter : Converter) (dump : Dump) :
    Logged (Except ConversionFault (Noted Form)) :=
  let metrics := converter.fontMetrics
  let options := ⟨converter.settings.font, metrics.value, converter.settings.opening⟩
  ⟨(Figure.formOf options dump).mapError .form, metrics.lines⟩

/-- The form that the dump in a file describes. -/
def formOfFile (converter : Converter) (tree : FileTree) (input : String) :
    Logged (Except ConversionFault (Noted Form)) :=
  match Dump.ofFile tree input with
  | .error fault => ⟨.error (.dump fault), []⟩
  | .ok dump => converter.formOf dump

/-- The text of the form that a dump describes. -/
def render (converter : Converter) (dump : Dump) : Logged (Except ConversionFault String) :=
  let built := converter.formOf dump
  ⟨built.value.map fun form => form.value.render, built.lines⟩

/-- The remark on an icon that was not written. -/
def iconRemark (failure : IconFailure) : Diagnostic :=
  .iconNotStored failure.action failure.fault.message

/-- Stores the icons of a form when they are wanted. -/
def storeIcons (converter : Converter) (sink : AssetSink σ) (form : Form) (state : σ) :
    σ × StoredIcons :=
  if converter.settings.writeIcons then Icons.store sink form.actions state else (state, ⟨0, []⟩)

/-- Converts a dump: writes the form to the output path, and then the icons.  Nothing is written
unless the form is. -/
def convert (converter : Converter) (storage : Storage σ) (dump : Dump) (output : String)
    (state : σ) : σ × Logged (Except ConversionFault ConversionReport) :=
  let built := converter.formOf dump
  match built.value with
  | .error fault => (state, ⟨.error fault, built.lines⟩)
  | .ok form =>
    match storage.write output form.value.render.toUTF8 state with
    | .error fault => (state, ⟨.error (.file fault), built.lines⟩)
    | .ok written =>
      let (final, icons) := converter.storeIcons storage.sink form.value written
      let report : ConversionReport := {
        output
        widgets := form.value.widgetCount
        icons := icons.stored
        diagnostics := form.notes ++ icons.failures.map iconRemark }
      (final, ⟨.ok report, built.lines⟩)

/-- The warning lines about the diagnostics of an input. -/
def warningLines (input : String) (diagnostics : List Diagnostic) : List LogLine :=
  diagnostics.map fun diagnostic => ⟨.warning, input ++ ": " ++ diagnostic.message⟩

/-- The line in front of a conversion. -/
def startLine (input output : String) : LogLine :=
  ⟨.info, "Converting " ++ input ++ " -> " ++ output⟩

/-- The line behind a conversion. -/
def endLine (report : ConversionReport) : LogLine :=
  ⟨.info, "Wrote " ++ report.output ++ " (" ++ toString report.widgets ++ " widgets, " ++
    toString report.icons ++ " icons)"⟩

/-- Converts the dump in a file, and puts the form and the icons beside it. -/
def convertFile (converter : Converter) (input : String) (tree : FileTree) :
    FileTree × Logged (Except ConversionFault ConversionReport) :=
  if !tree.isFile input then (tree, ⟨.error (.noOutputPath input .noInputFile), []⟩)
  else
    match converter.settings.outputPath input with
    | .error fault => (tree, ⟨.error (.noOutputPath input fault), []⟩)
    | .ok output =>
      let start := startLine input output
      match Dump.ofFile tree input with
      | .error fault => (tree, ⟨.error (.dump fault), [start]⟩)
      | .ok dump =>
        let storage := Storage.files ((Path.parent? output).getD "")
        let (final, converted) := converter.convert storage dump output tree
        match converted.value with
        | .error fault => (final, ⟨.error fault, start :: converted.lines⟩)
        | .ok report =>
          (final, ⟨.ok report, start :: converted.lines ++
            warningLines input report.diagnostics ++ [endLine report]⟩)

end Converter

end FigureForm
