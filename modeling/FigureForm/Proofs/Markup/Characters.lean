/-
# Characters that documents may hold

The grammar of documents allows tabs, line breaks and the characters from the blank on, except for
surrogates and the last two of the first plane.  The layout of a document, its tags and its references
are made of allowed characters.  Writing a text with references keeps all its other characters, so
that the forbidden characters of a document are those of the texts written in it, in their order
(`forbidden_renderAt`).  They are not replaced by anything.
-/

import FigureForm.Form.Markup
import FigureForm.Proofs.Markup.RoundTrip

namespace FigureForm.Markup

/-- Whether a document may hold a character. -/
def isAllowed (c : Char) : Bool :=
  c == '\t' || c == '\n' || c == '\r' || (0x20 ≤ c.toNat && c.toNat ≤ 0xD7FF) ||
    (0xE000 ≤ c.toNat && c.toNat ≤ 0xFFFD) || (0x10000 ≤ c.toNat && c.toNat ≤ 0x10FFFF)

/-- The characters that no document may hold. -/
def forbidden (written : List Char) : List Char :=
  written.filter fun c => !isAllowed c

/-- The characters of texts that no document may hold. -/
def forbiddenIn (texts : List String) : List Char :=
  texts.flatMap fun text => forbidden text.toList

theorem mem_forbidden {written : List Char} {c : Char} :
    c ∈ forbidden written ↔ c ∈ written ∧ isAllowed c = false := by
  simp [forbidden]

theorem forbidden_eq_nil_iff {written : List Char} :
    forbidden written = [] ↔ ∀ c ∈ written, isAllowed c = true := by
  simp [forbidden, List.filter_eq_nil_iff]

@[simp] theorem forbidden_append (first second : List Char) :
    forbidden (first ++ second) = forbidden first ++ forbidden second :=
  List.filter_append ..

@[simp] theorem forbidden_nil : forbidden [] = [] :=
  rfl

theorem forbidden_cons {c : Char} (allowed : isAllowed c = true) (rest : List Char) :
    forbidden (c :: rest) = forbidden rest := by
  rw [forbidden, List.filter_cons_of_neg (by simp [allowed]), forbidden]

theorem forbidden_flatMap {α : Type} (items : List α) (write : α → List Char) :
    forbidden (items.flatMap write) = items.flatMap fun item => forbidden (write item) :=
  List.filter_flatMap

/-- A text of allowed characters, as most that are written are. -/
@[simp] theorem forbidden_toList {text : String} (allowed : text.toList.all isAllowed = true) :
    forbidden text.toList = [] :=
  forbidden_eq_nil_iff.mpr (List.all_eq_true.mp allowed)

@[simp] theorem forbiddenIn_nil : forbiddenIn [] = [] :=
  rfl

@[simp] theorem forbiddenIn_cons (text : String) (rest : List String) :
    forbiddenIn (text :: rest) = forbidden text.toList ++ forbiddenIn rest :=
  List.flatMap_cons ..

@[simp] theorem forbiddenIn_append (first second : List String) :
    forbiddenIn (first ++ second) = forbiddenIn first ++ forbiddenIn second :=
  List.flatMap_append ..

theorem mem_forbiddenIn {texts : List String} {c : Char} :
    c ∈ forbiddenIn texts ↔ ∃ text ∈ texts, c ∈ forbidden text.toList :=
  List.mem_flatMap

/-- A document holds a forbidden character exactly when one of its texts does. -/
theorem forbiddenIn_eq_nil_iff {texts : List String} :
    forbiddenIn texts = [] ↔ ∀ text ∈ texts, ∀ c ∈ text.toList, isAllowed c = true := by
  simp only [forbiddenIn, List.flatMap_eq_nil_iff, forbidden_eq_nil_iff]

/-! ## Letters, digits and references -/

theorem isAllowed_of_toNat {c : Char} (blank : 0x20 ≤ c.toNat) (ascii : c.toNat < 0x80) :
    isAllowed c = true := by
  have inRange : c.toNat ≤ 0xD7FF := by omega
  simp [isAllowed, blank, inRange]

theorem isAllowed_of_isDigit {c : Char} (digit : c.isDigit = true) : isAllowed c = true := by
  obtain ⟨least, most⟩ := Char.isDigit_iff_toNat.mp digit
  exact isAllowed_of_toNat (Nat.le_trans (by decide) least) (Nat.lt_of_le_of_lt most (by decide))

theorem isAllowed_of_isAlphanum {c : Char} (alphanumeric : c.isAlphanum = true) :
    isAllowed c = true := by
  have letters {first last : Char} (blank : 0x20 ≤ first.toNat) (ascii : last.toNat < 0x80)
      (between : first.val ≤ c.val ∧ c.val ≤ last.val) : isAllowed c = true :=
    isAllowed_of_toNat (Nat.le_trans blank (UInt32.le_iff_toNat_le.mp between.1))
      (Nat.lt_of_le_of_lt (UInt32.le_iff_toNat_le.mp between.2) ascii)
  obtain letter | digit := Bool.or_eq_true_iff.mp alphanumeric
  · obtain upper | lower := Bool.or_eq_true_iff.mp letter
    · have between : 'A'.val ≤ c.val ∧ c.val ≤ 'Z'.val := of_decide_eq_true upper
      exact letters (by decide) (by decide) between
    · obtain ⟨least, most⟩ := Bool.and_eq_true_iff.mp lower
      have between : 'a'.val ≤ c.val ∧ c.val ≤ 'z'.val :=
        ⟨of_decide_eq_true least, of_decide_eq_true most⟩
      exact letters (by decide) (by decide) between
  · exact isAllowed_of_isDigit digit

theorem isAllowed_of_isNameCharacter {c : Char} (named : isNameCharacter c = true) :
    isAllowed c = true := by
  simp only [isNameCharacter, Bool.or_eq_true, beq_iff_eq] at named
  obtain (((alphanumeric | rfl) | rfl) | rfl) | rfl := named
  · exact isAllowed_of_isAlphanum alphanumeric
  · rfl
  · rfl
  · rfl
  · rfl

theorem forbidden_of_isName {name : String} (named : IsName name) :
    forbidden name.toList = [] :=
  forbidden_eq_nil_iff.mpr fun c member =>
    isAllowed_of_isNameCharacter (List.all_eq_true.mp named.2 c member)

/-- Digits are allowed. -/
@[simp] theorem forbidden_toString_nat (number : Nat) : forbidden (toString number).toList = [] := by
  apply forbidden_eq_nil_iff.mpr
  intro c member
  rw [show toString number = number.repr from rfl, Nat.toList_repr] at member
  have digit := Nat.isDigit_of_mem_toDigits (by decide) (by decide) member
  exact isAllowed_of_isDigit digit

/-- So is the sign of a negative number. -/
@[simp] theorem forbidden_coordinateText (a : Coordinate) :
    forbidden (Coordinate.text a).toList = [] := by
  rw [Coordinate.text, show toString a.toInt = a.toInt.repr from rfl, Int.repr_eq_if]
  split
  · exact forbidden_toString_nat _
  · rw [String.toList_append, forbidden_append, forbidden_toList (by decide), List.nil_append]
    exact forbidden_toString_nat _

/-- The signs of a reference are allowed, so that only the character itself can be forbidden. -/
theorem forbidden_escape (content : String) : forbidden (escape content) = forbidden content.toList := by
  have each (c : Char) : forbidden (escapeCharacter c) = forbidden [c] := by
    unfold escapeCharacter
    split <;> rfl
  rw [escape, forbidden_flatMap]
  simp only [each]
  rw [← forbidden_flatMap, List.flatMap_singleton']

/-! ## Documents -/

mutual

/-- The texts in an element, in the order of the document: values of attributes and contents. -/
def writtenTexts : Markup → List String
  | empty _ attributes => attributes.map Prod.snd
  | text _ attributes content => attributes.map Prod.snd ++ [content]
  | nested _ attributes elements => attributes.map Prod.snd ++ allWrittenTexts elements

/-- The texts in elements. -/
def allWrittenTexts : List Markup → List String
  | [] => []
  | element :: rest => writtenTexts element ++ allWrittenTexts rest

end

theorem allWrittenTexts_append (first second : List Markup) :
    allWrittenTexts (first ++ second) = allWrittenTexts first ++ allWrittenTexts second := by
  induction first with
  | nil => rw [allWrittenTexts, List.nil_append, List.nil_append]
  | cons element rest ih =>
    rw [List.cons_append, allWrittenTexts, allWrittenTexts, ih, List.append_assoc]

theorem forbidden_lineBreak (level : Nat) : forbidden (lineBreak level) = [] := by
  apply forbidden_eq_nil_iff.mpr
  intro c member
  obtain rfl | repeated := List.mem_cons.mp member
  · rfl
  · rw [List.eq_of_mem_replicate repeated]
    rfl

theorem forbidden_renderAttribute (one : String × String) (named : IsName one.1) :
    forbidden (renderAttribute one) = forbidden one.2.toList := by
  obtain ⟨name, value⟩ := one
  simp (disch := decide) [renderAttribute, forbidden_cons, forbidden_of_isName named,
    forbidden_escape]

theorem forbidden_openTag {name : String} (named : IsName name)
    {attributes : List (String × String)} (keysNamed : ∀ one ∈ attributes, IsName one.1) :
    forbidden (openTag name attributes) = forbiddenIn (attributes.map Prod.snd) := by
  have values : attributes.map (fun one => forbidden (renderAttribute one)) =
      attributes.map fun one => forbidden one.2.toList :=
    List.map_congr_left fun one member => forbidden_renderAttribute one (keysNamed one member)
  rw [openTag, forbidden_append, forbidden_cons rfl, forbidden_of_isName named, List.nil_append,
    forbidden_flatMap, List.flatMap_def, values, ← List.flatMap_def, forbiddenIn,
    List.flatMap_map]

theorem forbidden_closeTag {name : String} (named : IsName name) :
    forbidden (closeTag name) = [] := by
  simp (disch := decide) [closeTag, forbidden_cons, forbidden_of_isName named]

mutual

/-- The forbidden characters of an element are those of the texts in it. -/
theorem forbidden_renderAt (element : Markup) (formed : element.WellFormed) (level : Nat) :
    forbidden (element.renderAt level) = forbiddenIn element.writtenTexts := by
  cases element with
  | empty name attributes =>
    obtain ⟨named, keysNamed⟩ := formed
    simp (disch := decide) [renderAt, writtenTexts, forbidden_cons,
      forbidden_openTag named keysNamed]
  | text name attributes content =>
    obtain ⟨⟨named, -⟩, keysNamed⟩ := formed
    simp (disch := decide) [renderAt, writtenTexts, forbidden_cons,
      forbidden_openTag named keysNamed, forbidden_closeTag named, forbidden_escape]
  | nested name attributes elements =>
    obtain ⟨⟨named, -⟩, keysNamed, allFormed⟩ := formed
    have inside := forbidden_renderAllAt elements allFormed (level + 1)
    simp (disch := decide) [renderAt, writtenTexts, forbidden_cons,
      forbidden_openTag named keysNamed, forbidden_closeTag named, forbidden_lineBreak, inside]

theorem forbidden_renderAllAt (elements : List Markup) (formed : AllWellFormed elements)
    (level : Nat) :
    forbidden (renderAllAt level elements) = forbiddenIn (allWrittenTexts elements) := by
  cases elements with
  | nil =>
    rw [renderAllAt, allWrittenTexts]
    rfl
  | cons element rest =>
    obtain ⟨elementFormed, restFormed⟩ := formed
    rw [renderAllAt, allWrittenTexts, forbidden_append, forbidden_append, forbidden_lineBreak,
      forbidden_renderAt element elementFormed, forbidden_renderAllAt rest restFormed,
      List.nil_append, forbiddenIn_append]

end

/-- The forbidden characters of a document. -/
theorem forbidden_document {root : Markup} (formed : root.WellFormed) :
    forbidden (document root).toList = forbiddenIn root.writtenTexts := by
  rw [document, String.toList_append, String.toList_append, forbidden_append, forbidden_append,
    forbidden_toList (by decide), forbidden_toList (by decide), render, String.toList_ofList,
    forbidden_renderAt root formed]
  rfl

/-! ## The elements of forms -/

@[simp] theorem writtenTexts_textProperty (type name value : String) :
    (textProperty type name value).writtenTexts = [name, value] :=
  rfl

theorem forbiddenIn_rectangleProperty (r : Rectangle) :
    forbiddenIn (rectangleProperty "geometry" r).writtenTexts = [] := by
  simp (disch := decide) [rectangleProperty, property, writtenTexts, allWrittenTexts,
    forbidden_cons]

end FigureForm.Markup
