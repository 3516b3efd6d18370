/-
# Names of faces

The family names and the PostScript name in the name table of a face.  A name is kept as UTF-16
text, or in the Roman encoding of the Macintosh, which stands in where there is no name in
English.

A part of the font database that stands in the place of an outside library (see `Font.Database`).
-/

import FigureForm.Font.Tables
import FigureForm.Text.Surrogates

namespace FigureForm

/-- What a database knows of a face. -/
structure FaceNames where
  families : List String
  postScriptName : String
  deriving DecidableEq, Repr

namespace FaceNames

open BigEndian

/-- An entry of a name table. -/
structure Entry where
  platform : Nat
  encoding : Nat
  language : Nat
  kind : Nat
  content : List UInt8

/-- The entries of a name table from a place on, of which there are `more`.  An entry whose text is
cut off ends the list. -/
def readEntries (table : ByteArray) (storage : Nat) : (more : Nat) → (place : Nat) → List Entry
  | 0, _ => []
  | more + 1, place =>
    let entry := do
      let platform ← word? table place
      if 4 < platform then none
      let length ← word? table (place + 8)
      let start ← word? table (place + 10)
      return Entry.mk platform (← word? table (place + 2)) (← word? table (place + 4))
        (← word? table (place + 6)) (← slice? table (storage + start) length)
    match entry with
    | some entry => entry :: readEntries table storage more (place + 12)
    | none => []

/-- Where the entries of a name table begin. -/
def entriesStart? (table : ByteArray) : Option Nat := do
  match ← word? table 0 with
  | 0 => some 6
  | 1 => some (8 + 4 * (← word? table 6))
  | _ => none

/-- The entries of a name table. -/
def entries? (table : ByteArray) : Option (List Entry) := do
  let count ← word? table 2
  let storage ← word? table 4
  let start ← entriesStart? table
  let finish := start + 12 * count
  if table.size < max finish storage then none
  return readEntries table (max finish storage) count start

/-- The two-byte units of bytes. -/
def unitsOf : List UInt8 → List Nat
  | high :: low :: rest => (high.toNat * 256 + low.toNat) :: unitsOf rest
  | _ => []

/-- The characters of the upper half of the Roman encoding of the Macintosh. -/
def romanUpperHalf : String :=
  "ÄÅÇÉÑÖÜáàâäãåçéèêëíìîïñóòôöõúùûü†°¢£§•¶ß®©™´¨≠ÆØ∞±≤≥¥µ∂∑∏π∫ªºΩæø" ++
    "¿¡¬√ƒ≈∆«»…\u00a0ÀÃÕŒœ–—“”‘’÷◊ÿŸ⁄€‹›ﬁﬂ‡·‚„‰ÂÊÁËÈÍÎÏÌÓÔ\uf8ffÒÚÛÙıˆ˜¯˘˙˚¸˝˛ˇ"

/-- A character of the Roman encoding of the Macintosh.  Four control characters stand for the
keys that a shortcut holds down. -/
def ofRoman (byte : UInt8) : Char :=
  match byte.toNat with
  | 0x11 => '⌘'
  | 0x12 => '⇧'
  | 0x13 => '⌥'
  | 0x14 => '⌃'
  | code =>
    if code < 128 then Char.ofNat code
    else (romanUpperHalf.toList[code - 128]?).getD ' '

/-- Whether an entry is UTF-16 text. -/
def Entry.isUnicode (entry : Entry) : Bool :=
  entry.platform == 0 || (entry.platform == 3 && entry.encoding ≤ 1)

/-- Whether an entry is in the Roman encoding of the Macintosh. -/
def Entry.isRoman (entry : Entry) : Bool :=
  entry.platform == 1 && entry.encoding == 0

/-- Whether an entry is in the English of the United States. -/
def Entry.isEnglish (entry : Entry) : Bool :=
  (entry.platform == 3 && entry.language == 0x0409) ||
    (entry.platform == 1 && entry.encoding == 0 && entry.language == 0)

/-- The text of an entry. -/
def Entry.text? (entry : Entry) : Option String :=
  if entry.isUnicode then (Surrogates.decode? (unitsOf entry.content)).map String.ofList
  else if entry.isRoman then some (String.ofList (entry.content.map ofRoman))
  else none

/-- The family names under a kind of name. -/
def familyNames (kind : Nat) (entries : List Entry) : List String :=
  let named := entries.filter fun entry => entry.kind == kind
  let unicode := named.filter fun entry => entry.isUnicode && entry.text?.isSome
  let roman :=
    if unicode.any Entry.isEnglish then []
    else (named.filter Entry.isRoman).take 1
  (unicode ++ roman).filterMap Entry.text?

/-- The names of a face; nothing for a face without a family or PostScript name. -/
def read? (file : FontFile) : Option FaceNames := do
  let entries ← entries? (← file.sortedTable? 0x6E616D65)
  let typographic := familyNames 16 entries
  let families := if typographic.isEmpty then familyNames 1 entries else typographic
  let postScript ← entries.find? fun entry =>
    entry.kind == 6 && (entry.isUnicode || entry.isRoman)
  let postScriptName ← postScript.text?
  if families.isEmpty then none else some ⟨families, postScriptName⟩

end FaceNames

end FigureForm
