/-
# Reading JSON

`Json.read` turns a text into a value or into the first fault from the left.  The grammar is the
standard one without extensions: blanks are space, tab, line feed and carriage return; text beyond
the top value is a fault; lists and objects nest at most `deepestNesting` levels.

Each reader returns what it leaves of the text together with the fact that this is shorter, and
that fact is what makes the mutual recursion end.

The reader stands in the place of an outside library, which is no part of the program; the limit on
nesting and the choice of the fault are those of that library.
-/

import FigureForm.Decimal
import FigureForm.Json.Fault
import FigureForm.Json.Value
import FigureForm.Text.Surrogates

namespace FigureForm.Json

/-- Lists and objects may be nested this deeply. -/
def deepestNesting : Nat := 127

/-- The characters that may stand between tokens. -/
def isBlank (c : Char) : Bool :=
  c == ' ' || c == '\t' || c == '\n' || c == '\r'

/-- A text without the blanks in front. -/
def skipBlanks (input : List Char) : List Char :=
  input.dropWhile isBlank

theorem length_skipBlanks_le (input : List Char) : (skipBlanks input).length ≤ input.length :=
  (List.dropWhile_sublist isBlank).length_le

theorem length_lt_of_skipBlanks_eq_cons {input rest : List Char} {c : Char}
    (h : skipBlanks input = c :: rest) : rest.length < input.length := by
  have := length_skipBlanks_le input
  rw [h, List.length_cons] at this
  omega

/-- What was read from a text, and a rest that is shorter than the bound. -/
structure Scanned (α : Type) (bound : Nat) where
  value : α
  rest : List Char
  shorter : rest.length < bound

/-- The outcome of a reader whose rest is shorter than the bound. -/
abbrev Scan (α : Type) (bound : Nat) := Except Fault (Scanned α bound)

/-- Turns what was read into another value, under a bound that is no smaller. -/
def Scan.as {α β : Type} {small large : Nat} (scan : Scan α small) (f : α → β)
    (h : small ≤ large) : Scan β large :=
  scan.map fun scanned =>
    ⟨f scanned.value, scanned.rest, Nat.lt_of_lt_of_le scanned.shorter h⟩

/-! ## Words and numbers -/

/-- Reads the remaining letters of `null`, `true` or `false`. -/
def readWord : List Char → (input : List Char) → Scan Unit (input.length + 1)
  | [], input => .ok ⟨(), input, Nat.lt_succ_self _⟩
  | _ :: _, [] => .error .endInValue
  | letter :: letters, c :: rest =>
    if c = letter then (readWord letters rest).as id (by simp) else .error .expectedWord

/-- The value of a decimal digit. -/
def digitValue (c : Char) : Nat :=
  c.toNat - '0'.toNat

/-- The digits in front of a text. -/
def leadingDigits (input : List Char) : List Nat :=
  (input.takeWhile Char.isDigit).map digitValue

/-- What follows the digits in front of a text. -/
def afterDigits (input : List Char) : List Char :=
  input.dropWhile Char.isDigit

theorem length_afterDigits (input : List Char) :
    (leadingDigits input).length + (afterDigits input).length = input.length := by
  unfold leadingDigits afterDigits
  rw [List.length_map, ← List.length_append, List.takeWhile_append_dropWhile]

/-- The number with these decimal digits. -/
def ofDigits (digits : List Nat) : Nat :=
  digits.foldl (fun total digit => total * 10 + digit) 0

/-- Reads digits where at least one has to stand. -/
def readDigits (input : List Char) : Scan (List Nat) input.length :=
  if input.isEmpty then .error .endInValue
  else if h : leadingDigits input = [] then .error .invalidNumber
  else .ok ⟨leadingDigits input, afterDigits input, by
    have := length_afterDigits input
    have := List.length_pos_iff.2 h
    omega⟩

/-- Reads the digits after a point, if there is one. -/
def readFraction (input : List Char) : Scan (List Nat) (input.length + 1) :=
  match input with
  | '.' :: rest => (readDigits rest).as id (by simp only [List.length_cons]; omega)
  | other => .ok ⟨[], other, Nat.lt_succ_self _⟩

/-- Reads the digits of an exponent and the sign in front of them. -/
def readSignedDigits (input : List Char) : Scan Int input.length :=
  match input with
  | '-' :: rest => (readDigits rest).as (fun digits => -(ofDigits digits : Int)) (by simp)
  | '+' :: rest => (readDigits rest).as (fun digits => (ofDigits digits : Int)) (by simp)
  | other => (readDigits other).as (fun digits => (ofDigits digits : Int)) (Nat.le_refl _)

/-- Reads an exponent, if there is one. -/
def readExponent (input : List Char) : Scan Int (input.length + 1) :=
  match input with
  | 'e' :: rest | 'E' :: rest =>
    (readSignedDigits rest).as id (by simp only [List.length_cons]; omega)
  | other => .ok ⟨0, other, Nat.lt_succ_self _⟩

/-- Reads a number without its sign.  The whole part has no leading zero. -/
def readNumber (negative : Bool) (input : List Char) : Scan Float input.length := do
  let whole ← readDigits input
  if whole.value.head? = some 0 ∧ whole.value.length ≠ 1 then .error .invalidNumber
  let fraction ← readFraction whole.rest
  let exponent ← readExponent fraction.rest
  let (significand, power) := Decimal.normalize whole.value fraction.value exponent.value
  match Decimal.toDouble significand power with
  | none => .error .numberTooLarge
  | some size =>
    return ⟨if negative then -size else size, exponent.rest, by
      have := whole.shorter
      have := fraction.shorter
      have := exponent.shorter
      omega⟩

/-! ## Texts -/

/-- The value of a hexadecimal digit. -/
def hexValue? (c : Char) : Option Nat :=
  if c.isDigit then some (c.toNat - '0'.toNat)
  else if 'a' ≤ c ∧ c ≤ 'f' then some (c.toNat - 'a'.toNat + 10)
  else if 'A' ≤ c ∧ c ≤ 'F' then some (c.toNat - 'A'.toNat + 10)
  else none

/-- Reads four hexadecimal digits.  A text with fewer than four bytes left has ended too early;
otherwise what stands there is no escape. -/
def readUnit (input : List Char) : Scan Nat (input.length + 1) :=
  match input with
  | a :: b :: c :: d :: rest =>
    match hexValue? a, hexValue? b, hexValue? c, hexValue? d with
    | some a, some b, some c, some d =>
      .ok ⟨((a * 16 + b) * 16 + c) * 16 + d, rest, by simp only [List.length_cons]; omega⟩
    | _, _, _, _ => .error .invalidEscape
  | short =>
    if (String.ofList short).utf8ByteSize < 4 then .error .endInString else .error .invalidEscape

/-- Reads the second half of a surrogate pair, an escape of its own. -/
def readLowSurrogate (high : Nat) (input : List Char) : Scan Char (input.length + 1) :=
  match input with
  | [] | ['\\'] => .error .endInString
  | '\\' :: 'u' :: rest => do
    let low ← (readUnit rest).as id (by simp only [List.length_cons]; omega)
    if Surrogates.isLow low.value then
      return ⟨Surrogates.character high low.value, low.rest, low.shorter⟩
    else .error .loneSurrogate
  | _ => .error .unpairedSurrogate

/-- Reads what follows the `\u` of an escape. -/
def readUnicodeEscape (input : List Char) : Scan Char (input.length + 1) := do
  let unit ← readUnit input
  if Surrogates.isLow unit.value then .error .loneSurrogate
  else if Surrogates.isHigh unit.value then
    (readLowSurrogate unit.value unit.rest).as id unit.shorter
  else return ⟨Char.ofNat unit.value, unit.rest, unit.shorter⟩

/-- The character that a letter after a backslash stands for. -/
def shortEscape? : Char → Option Char
  | '"' => some '"'
  | '\\' => some '\\'
  | '/' => some '/'
  | 'b' => some '\x08'
  | 'f' => some '\x0c'
  | 'n' => some '\n'
  | 'r' => some '\r'
  | 't' => some '\t'
  | _ => none

/-- Reads what follows the backslash of an escape. -/
def readEscape (input : List Char) : Scan Char (input.length + 1) :=
  match input with
  | [] => .error .endInString
  | c :: rest =>
    if c = 'u' then (readUnicodeEscape rest).as id (by simp)
    else match shortEscape? c with
      | some meaning => .ok ⟨meaning, rest, by simp only [List.length_cons]; omega⟩
      | none => .error .invalidEscape

/-- Reads the characters of a text up to its closing quote, whose opening quote has been read. -/
def readText (input : List Char) : Scan (List Char) input.length :=
  match input with
  | [] => .error .endInString
  | '"' :: rest => .ok ⟨[], rest, by simp⟩
  | '\\' :: rest => do
    let first ← readEscape rest
    have := first.shorter
    (readText first.rest).as (first.value :: ·) (by simp only [List.length_cons]; omega)
  | c :: rest =>
    if c.toNat < 0x20 then .error .controlCharacter
    else (readText rest).as (c :: ·) (by simp)
termination_by input.length

/-! ## Values -/

/-- What a value begins with. -/
inductive Opening
  | null
  | yes
  | no
  | minus
  | digit
  | quote
  | bracket
  | brace
  deriving DecidableEq, Repr

/-- The opening that a character is, if a value can begin with it. -/
def openingOf? (c : Char) : Option Opening :=
  if c = 'n' then some .null
  else if c = 't' then some .yes
  else if c = 'f' then some .no
  else if c = '-' then some .minus
  else if c.isDigit then some .digit
  else if c = '"' then some .quote
  else if c = '[' then some .bracket
  else if c = '\x7b' then some .brace
  else none

mutual

/-- Reads a value; `room` is the number of levels that may still be opened. -/
def readValue (room : Nat) (input : List Char) : Scan Json input.length :=
  match h : skipBlanks input with
  | [] => .error .endInValue
  | c :: rest =>
    have smaller := length_lt_of_skipBlanks_eq_cons h
    match openingOf? c with
    | none => .error .expectedValue
    | some .null => (readWord ['u', 'l', 'l'] rest).as (fun _ => null) smaller
    | some .yes => (readWord ['r', 'u', 'e'] rest).as (fun _ => boolean true) smaller
    | some .no => (readWord ['a', 'l', 's', 'e'] rest).as (fun _ => boolean false) smaller
    | some .minus => (readNumber true rest).as number (Nat.le_of_lt smaller)
    | some .digit => (readNumber false (c :: rest)).as number smaller
    | some .quote =>
      (readText rest).as (fun letters => text (String.ofList letters)) (Nat.le_of_lt smaller)
    | some .bracket =>
      match room with
      | 0 => .error .nestedTooDeeply
      | room + 1 => (readFirstItem room rest).as list (Nat.le_of_lt smaller)
    | some .brace =>
      match room with
      | 0 => .error .nestedTooDeeply
      | room + 1 =>
        (readFirstMember room rest).as (fun pairs => object (membersOf pairs))
          (Nat.le_of_lt smaller)
termination_by 2 * input.length

/-- Reads the items of a list whose bracket has just been opened. -/
def readFirstItem (room : Nat) (input : List Char) : Scan (List Json) input.length :=
  match h : skipBlanks input with
  | [] => .error .endInList
  | c :: rest =>
    if c = ']' then .ok ⟨[], rest, length_lt_of_skipBlanks_eq_cons h⟩
    else do
      let first ← readValue room input
      have := first.shorter
      (readMoreItems room first.rest).as (first.value :: ·) (by omega)
termination_by 2 * input.length + 1

/-- Reads the rest of a list after an item. -/
def readMoreItems (room : Nat) (input : List Char) : Scan (List Json) input.length :=
  match h : skipBlanks input with
  | [] => .error .endInList
  | c :: rest =>
    have smaller := length_lt_of_skipBlanks_eq_cons h
    if c = ']' then .ok ⟨[], rest, smaller⟩
    else if c = ',' then
      if (skipBlanks rest).head? = some ']' then .error .trailingComma
      else do
        let item ← readValue room rest
        have := item.shorter
        (readMoreItems room item.rest).as (item.value :: ·) (by omega)
    else .error .expectedCommaOrListEnd
termination_by 2 * input.length + 1

/-- Reads the members of an object whose brace has just been opened. -/
def readFirstMember (room : Nat) (input : List Char) :
    Scan (List (String × Json)) input.length :=
  match h : skipBlanks input with
  | [] => .error .endInObject
  | c :: rest =>
    have smaller := length_lt_of_skipBlanks_eq_cons h
    if c = '\x7d' then .ok ⟨[], rest, smaller⟩
    else if c = '"' then (readMember room rest).as id (Nat.le_of_lt smaller)
    else .error .nameNotText
termination_by 2 * input.length

/-- Reads the rest of an object after a member. -/
def readMoreMembers (room : Nat) (input : List Char) :
    Scan (List (String × Json)) input.length :=
  match h : skipBlanks input with
  | [] => .error .endInObject
  | c :: rest =>
    have smaller := length_lt_of_skipBlanks_eq_cons h
    if c = '\x7d' then .ok ⟨[], rest, smaller⟩
    else if c = ',' then
      match h' : skipBlanks rest with
      | [] => .error .endInValue
      | d :: after =>
        have := length_lt_of_skipBlanks_eq_cons h'
        if d = '\x7d' then .error .trailingComma
        else if d = '"' then (readMember room after).as id (by omega)
        else .error .nameNotText
    else .error .expectedCommaOrObjectEnd
termination_by 2 * input.length

/-- Reads a member whose name has just been opened, and the rest of the object. -/
def readMember (room : Nat) (input : List Char) : Scan (List (String × Json)) input.length := do
  let letters ← readText input
  have := letters.shorter
  match h : skipBlanks letters.rest with
  | [] => .error .endInObject
  | c :: rest =>
    have := length_lt_of_skipBlanks_eq_cons h
    if c = ':' then
      let value ← readValue room rest
      have := value.shorter
      (readMoreMembers room value.rest).as ((String.ofList letters.value, value.value) :: ·)
        (by omega)
    else .error .expectedColon
termination_by 2 * input.length

end

/-- The value of a text, or the first fault in it. -/
def read (source : String) : Except Fault Json := do
  let top ← readValue deepestNesting source.toList
  if (skipBlanks top.rest).isEmpty then return top.value else .error .trailingCharacters

end FigureForm.Json
