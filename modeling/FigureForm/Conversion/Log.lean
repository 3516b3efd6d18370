/-
# Log lines

What a conversion tells on the way, with a level that says how urgent it is.  A message may quote a
figure, whose texts can hold any character; in the log it takes one line, which is what is visible
of the message up to its first line feed.
-/

import FigureForm.Text.Terminal

namespace FigureForm

/-- How urgent a line is. -/
inductive LogLevel
  | error
  | warning
  | info
  deriving DecidableEq, Repr

namespace LogLevel

/-- A lower rank is more urgent. -/
def rank : LogLevel → Nat
  | error => 1
  | warning => 2
  | info => 3

/-- What a level is called in a log. -/
def label : LogLevel → String
  | error => "ERROR"
  | warning => "WARN"
  | info => "INFO"

end LogLevel

/-- A line of a log. -/
structure LogLine where
  level : LogLevel
  message : String
  deriving DecidableEq, Repr

/-- The lines of at most a rank. -/
def LogLine.upTo (rank : Nat) (lines : List LogLine) : List LogLine :=
  lines.filter fun line => line.level.rank ≤ rank

/-- A message as it is written into the log: a line feed ends it, and its own lines but the first
are indented. -/
def LogLine.written (line : LogLine) : List Char :=
  (line.message.toList.flatMap fun c => if c = '\n' then ['\n', ' ', ' ', ' ', ' '] else [c]) ++
    ['\n']

/-- The first line of a text, which ends with a line feed or a carriage return and a line feed. -/
def firstLine (text : List Char) : List Char :=
  let line := text.takeWhile (· ≠ '\n')
  if '\n' ∈ text ∧ line.getLast? = some '\r' then line.dropLast else line

/-- A log line as it stands in the log: a single line that steers no terminal. -/
def LogLine.onOneLine (line : LogLine) : LogLine :=
  { line with message := String.ofList (firstLine (Terminal.visible line.written)) }

theorem lineFeed_not_mem_firstLine (text : List Char) : '\n' ∉ firstLine text := by
  have kept : '\n' ∉ text.takeWhile (· ≠ '\n') := by
    intro held
    have differs := List.all_eq_true.1 List.all_takeWhile _ held
    simp at differs
  unfold firstLine
  dsimp only
  split
  · exact fun held => kept (List.dropLast_subset _ held)
  · exact kept

/-- A log line stands on one line. -/
theorem LogLine.lineFeed_not_mem_onOneLine (line : LogLine) :
    '\n' ∉ line.onOneLine.message.toList := by
  simpa [LogLine.onOneLine] using lineFeed_not_mem_firstLine _

end FigureForm
