/-
# Outlines as texts

The text of an outline determines the outline (`render_injective`).  The reason is that every part of
the text shows where it ends: the reader of JSON texts finds the end of a quoted text, a number ends in
front of the first character that is no digit, and behind an item there is a comma or a line break.  So
the induction carries what stands behind an outline along with the outline itself.
-/

import FigureForm.Form.Outline
import FigureForm.Json.Reader
import FigureForm.Proofs.Numerals

namespace FigureForm.Outline

/-! ## Quoted texts -/

/-- How a character may be written inside quotes: with a letter that stands for it behind a backslash,
with four hexadecimal digits, or as it is. -/
theorem escapeCharacter_cases (c : Char) :
    (∃ letter, letter ≠ 'u' ∧ Json.shortEscape? letter = some c ∧
      escapeCharacter c = ['\\', letter]) ∨
    (c.toNat < 0x20 ∧ escapeCharacter c =
      ['\\', 'u', '0', '0', hexDigit (c.toNat / 16), hexDigit (c.toNat % 16)]) ∨
    (c ≠ '"' ∧ c ≠ '\\' ∧ ¬ c.toNat < 0x20 ∧ escapeCharacter c = [c]) := by
  rw [escapeCharacter]
  split
  · exact .inl ⟨'"', by decide, by subst c; rfl, rfl⟩
  split
  · exact .inl ⟨'\\', by decide, by subst c; rfl, rfl⟩
  split
  · exact .inl ⟨'b', by decide, by subst c; rfl, rfl⟩
  split
  · exact .inl ⟨'f', by decide, by subst c; rfl, rfl⟩
  split
  · exact .inl ⟨'n', by decide, by subst c; rfl, rfl⟩
  split
  · exact .inl ⟨'r', by decide, by subst c; rfl, rfl⟩
  split
  · exact .inl ⟨'t', by decide, by subst c; rfl, rfl⟩
  split
  · exact .inr (.inl ⟨‹_›, rfl⟩)
  · exact .inr (.inr ⟨‹_›, ‹_›, ‹_›, rfl⟩)

/-- Whether a reader reads a value and leaves a rest. -/
def Reads {α : Type} {bound : Nat} (scan : Json.Scan α bound) (value : α) (rest : List Char) :
    Prop :=
  ∃ shorter, scan = .ok ⟨value, rest, shorter⟩

theorem Reads.as {α β : Type} {small large : Nat} {scan : Json.Scan α small} {value : α}
    {rest : List Char} (reads : Reads scan value rest) (f : α → β) (h : small ≤ large) :
    Reads (scan.as f h) (f value) rest := by
  obtain ⟨shorter, rfl⟩ := reads
  exact ⟨Nat.lt_of_lt_of_le shorter h, rfl⟩

/-- What a reader reads and leaves is determined by its input. -/
theorem Reads.unique {α : Type} {bound : Nat} {scan : Json.Scan α bound} {value other : α}
    {rest more : List Char} (reads : Reads scan value rest) (again : Reads scan other more) :
    value = other ∧ rest = more := by
  obtain ⟨_, rfl⟩ := reads
  obtain ⟨_, same⟩ := again
  cases same
  exact ⟨rfl, rfl⟩

theorem hexValue?_hexDigit {value : Nat} (small : value < 16) :
    Json.hexValue? (hexDigit value) = some value := by
  revert value
  decide

theorem readUnit_hexDigit {high low : Nat} (highSmall : high < 16) (lowSmall : low < 16)
    (rest : List Char) :
    Reads (Json.readUnit ('0' :: '0' :: hexDigit high :: hexDigit low :: rest)) (high * 16 + low)
      rest := by
  have zero : Json.hexValue? '0' = some 0 := by decide
  rw [Json.readUnit, zero, hexValue?_hexDigit highSmall, hexValue?_hexDigit lowSmall]
  refine ⟨by simp only [List.length_cons]; omega, ?_⟩
  simp

/-- A control character is read from its hexadecimal digits. -/
theorem readUnicodeEscape_hexDigit {c : Char} (control : c.toNat < 0x20) (rest : List Char) :
    Reads (Json.readUnicodeEscape
      ('0' :: '0' :: hexDigit (c.toNat / 16) :: hexDigit (c.toNat % 16) :: rest)) c rest := by
  obtain ⟨_, unit⟩ :=
    readUnit_hexDigit (show c.toNat / 16 < 16 by omega) (Nat.mod_lt c.toNat (by decide)) rest
  have value : c.toNat / 16 * 16 + c.toNat % 16 = c.toNat := by omega
  have notLow : ¬ Surrogates.isLow c.toNat = true := by
    simp only [Surrogates.isLow, Bool.and_eq_true, decide_eq_true_eq]
    omega
  have notHigh : ¬ Surrogates.isHigh c.toNat = true := by
    simp only [Surrogates.isHigh, Bool.and_eq_true, decide_eq_true_eq]
    omega
  simp only [value] at unit
  rw [Json.readUnicodeEscape, unit]
  show Reads (if Surrogates.isLow c.toNat = true then _ else _) c rest
  rw [if_neg notLow]
  show Reads (if Surrogates.isHigh c.toNat = true then _ else _) c rest
  rw [if_neg notHigh]
  exact ⟨_, by rw [Char.ofNat_toNat]; rfl⟩

theorem readEscape_unit {c : Char} {rest behind : List Char}
    (reads : Reads (Json.readUnicodeEscape rest) c behind) :
    Reads (Json.readEscape ('u' :: rest)) c behind := by
  rw [Json.readEscape, if_pos rfl]
  exact reads.as id _

theorem readEscape_letter {letter c : Char} (notUnit : letter ≠ 'u')
    (means : Json.shortEscape? letter = some c) (rest : List Char) :
    Reads (Json.readEscape (letter :: rest)) c rest := by
  rw [Json.readEscape, if_neg notUnit]
  split
  next meaning found =>
    rw [means] at found
    cases found
    exact ⟨_, rfl⟩
  next absent =>
    rw [means] at absent
    cases absent

theorem readText_escape {c : Char} {rest behind text more : List Char}
    (escape : Reads (Json.readEscape rest) c behind)
    (reads : Reads (Json.readText behind) text more) :
    Reads (Json.readText ('\\' :: rest)) (c :: text) more := by
  obtain ⟨shorter, escape⟩ := escape
  have small : behind.length ≤ ('\\' :: rest).length := by
    rw [List.length_cons]
    omega
  rw [Json.readText, escape]
  exact reads.as (c :: ·) small

theorem readText_plain {c : Char} {rest text more : List Char} (notQuote : c ≠ '"')
    (notBackslash : c ≠ '\\') (visible : ¬ c.toNat < 0x20)
    (reads : Reads (Json.readText rest) text more) :
    Reads (Json.readText (c :: rest)) (c :: text) more := by
  rw [Json.readText, if_neg visible]
  · exact reads.as (c :: ·) _
  · exact notQuote
  · exact notBackslash

/-- The reader of JSON texts reads a text from its characters as they are written inside quotes, and
it stops behind the closing quote. -/
theorem readText_flatMap_escapeCharacter (text rest : List Char) :
    Reads (Json.readText (text.flatMap escapeCharacter ++ '"' :: rest)) text rest := by
  induction text with
  | nil =>
    show Reads (Json.readText ('"' :: rest)) [] rest
    rw [Json.readText]
    exact ⟨_, rfl⟩
  | cons c text ih =>
    rw [List.flatMap_cons, List.append_assoc]
    obtain ⟨letter, notUnit, means, escaped⟩ | ⟨control, escaped⟩ |
      ⟨notQuote, notBackslash, visible, plain⟩ := escapeCharacter_cases c
    · rw [escaped]
      exact readText_escape (readEscape_letter notUnit means _) ih
    · rw [escaped]
      exact readText_escape (readEscape_unit (readUnicodeEscape_hexDigit control _)) ih
    · rw [plain]
      exact readText_plain notQuote notBackslash visible ih

/-- A quoted text determines its characters and what is behind it. -/
theorem quote_append_injective {first second : String} {rest more : List Char}
    (same : quote first ++ rest = quote second ++ more) : first = second ∧ rest = more := by
  have spelled (text : String) (behind : List Char) :
      quote text ++ behind = '"' :: (text.toList.flatMap escapeCharacter ++ '"' :: behind) := by
    rw [quote, List.cons_append, List.cons_append, List.append_assoc]
    rfl
  rw [spelled, spelled] at same
  injection same with _ same
  have reads := readText_flatMap_escapeCharacter first.toList rest
  rw [same] at reads
  obtain ⟨characters, behind⟩ := reads.unique (readText_flatMap_escapeCharacter _ more)
  exact ⟨String.toList_injective characters, behind⟩

/-! ## Shapes -/

/-- The shapes of outlines. -/
inductive Shape
  | null
  | truth
  | whole
  | text
  | list
  | fields

/-- The shape of an outline. -/
def shape : Outline → Shape
  | null => .null
  | truth _ => .truth
  | whole _ => .whole
  | text _ => .text
  | list _ => .list
  | fields _ => .fields

/-- The shape of the outlines that begin like a value of a JSON text. -/
def Shape.ofOpening : Json.Opening → Shape
  | .null => .null
  | .yes | .no => .truth
  | .minus | .digit => .whole
  | .quote => .text
  | .bracket => .list
  | .brace => .fields

theorem openingOf?_of_isDigit {c : Char} (digit : c.isDigit = true) :
    Json.openingOf? c = some .digit := by
  have other (d : Char) (notDigit : d.isDigit = false) : c ≠ d := by
    rintro rfl
    exact Bool.false_ne_true (notDigit.symm.trans digit)
  rw [Json.openingOf?, if_neg (other 'n' rfl), if_neg (other 't' rfl), if_neg (other 'f' rfl),
    if_neg (other '-' rfl), if_pos digit]

/-- The first character of an outline shows its shape. -/
theorem exists_opening (outline : Outline) (level : Nat) :
    ∃ c rest, outline.renderAt level = c :: rest ∧
      (Json.openingOf? c).map Shape.ofOpening = some outline.shape := by
  cases outline with
  | null => exact ⟨'n', _, rfl, rfl⟩
  | truth value => cases value <;> exact ⟨_, _, rfl, rfl⟩
  | whole value =>
    rw [renderAt]
    cases value with
    | ofNat number =>
      obtain ⟨c, rest, written, digit⟩ := Numerals.exists_digit number
      rw [Numerals.toList_toString_ofNat]
      exact ⟨c, rest, written, by rw [openingOf?_of_isDigit digit]; rfl⟩
    | negSucc number =>
      rw [Numerals.toList_toString_negSucc]
      exact ⟨'-', _, rfl, rfl⟩
  | text value => exact ⟨'"', _, rfl, rfl⟩
  | list items =>
    cases items with
    | nil => exact ⟨'[', _, rfl, rfl⟩
    | cons item items => exact ⟨'[', _, by rw [renderAt]; rfl, rfl⟩
  | fields members =>
    cases members with
    | nil => exact ⟨'\x7b', _, rfl, rfl⟩
    | cons member members => exact ⟨'\x7b', _, by rw [renderAt]; rfl, rfl⟩

theorem shape_eq_of_append {first second : Outline} {level : Nat} {rest more : List Char}
    (same : first.renderAt level ++ rest = second.renderAt level ++ more) :
    first.shape = second.shape := by
  obtain ⟨c, tail, written, opening⟩ := first.exists_opening level
  obtain ⟨d, _, others, otherOpening⟩ := second.exists_opening level
  rw [written, others] at same
  obtain rfl : c = d := (List.cons.inj same).1
  exact Option.some.inj (opening.symm.trans otherOpening)

/-! ## Outlines -/

theorem ends_lineBreak (level : Nat) (rest : List Char) : Numerals.Ends (lineBreak level ++ rest) :=
  Numerals.ends_cons rfl _

theorem ends_renderItems (level : Nat) (items : List Outline) {behind : List Char}
    (ends : Numerals.Ends behind) : Numerals.Ends (renderItems level items ++ behind) := by
  cases items with
  | nil => exact ends
  | cons item items =>
    rw [renderItems]
    exact Numerals.ends_cons rfl _

theorem ends_renderMembers (level : Nat) (members : List (String × Outline)) {behind : List Char}
    (ends : Numerals.Ends behind) : Numerals.Ends (renderMembers level members ++ behind) := by
  cases members with
  | nil => exact ends
  | cons member members =>
    rw [renderMembers]
    exact Numerals.ends_cons rfl _

theorem renderAt_list_append (level : Nat) (item : Outline) (items : List Outline)
    (behind : List Char) :
    renderAt level (list (item :: items)) ++ behind =
      '[' :: (lineBreak (level + 1) ++ (renderAt (level + 1) item ++
        (renderItems (level + 1) items ++ (lineBreak level ++ ']' :: behind)))) := by
  rw [renderAt]
  simp only [List.append_assoc, List.cons_append, List.nil_append]

theorem renderItems_cons_append (level : Nat) (item : Outline) (items : List Outline)
    (behind : List Char) :
    renderItems level (item :: items) ++ behind =
      ',' :: (lineBreak level ++ (renderAt level item ++ (renderItems level items ++ behind))) := by
  rw [renderItems]
  simp only [List.append_assoc, List.cons_append]

theorem renderAt_fields_append (level : Nat) (name : String) (value : Outline)
    (members : List (String × Outline)) (behind : List Char) :
    renderAt level (fields ((name, value) :: members)) ++ behind =
      '\x7b' :: (lineBreak (level + 1) ++ (quote name ++ (':' :: ' ' ::
        (renderAt (level + 1) value ++ (renderMembers (level + 1) members ++
          (lineBreak level ++ '\x7d' :: behind)))))) := by
  rw [renderAt]
  simp only [List.append_assoc, List.cons_append, List.nil_append]

theorem renderMembers_cons_append (level : Nat) (name : String) (value : Outline)
    (members : List (String × Outline)) (behind : List Char) :
    renderMembers level ((name, value) :: members) ++ behind =
      ',' :: (lineBreak level ++ (quote name ++ (':' :: ' ' ::
        (renderAt level value ++ (renderMembers level members ++ behind))))) := by
  rw [renderMembers]
  simp only [List.append_assoc, List.cons_append]

mutual

/-- The text of an outline determines it and what is behind it. -/
theorem renderAt_append_injective : ∀ (first second : Outline) (level : Nat)
    {rest more : List Char}, Numerals.Ends rest → Numerals.Ends more →
    renderAt level first ++ rest = renderAt level second ++ more → first = second ∧ rest = more
  | null, second, level, rest, more, _, _, same => by
    have shape := shape_eq_of_append same
    cases second with
    | null => exact ⟨rfl, List.append_cancel_left same⟩
    | _ => cases shape
  | truth value, second, level, rest, more, _, _, same => by
    have shape := shape_eq_of_append same
    cases second with
    | truth other =>
      cases value <;> cases other
      · exact ⟨rfl, List.append_cancel_left same⟩
      · cases (List.cons.inj same).1
      · cases (List.cons.inj same).1
      · exact ⟨rfl, List.append_cancel_left same⟩
    | _ => cases shape
  | whole value, second, level, rest, more, ends, others, same => by
    have shape := shape_eq_of_append same
    cases second with
    | whole other =>
      obtain ⟨rfl, behind⟩ := Numerals.toString_append_injective ends others same
      exact ⟨rfl, behind⟩
    | _ => cases shape
  | text value, second, level, rest, more, _, _, same => by
    have shape := shape_eq_of_append same
    cases second with
    | text other =>
      obtain ⟨rfl, behind⟩ := quote_append_injective same
      exact ⟨rfl, behind⟩
    | _ => cases shape
  | list [], second, level, rest, more, _, _, same => by
    have shape := shape_eq_of_append same
    cases second with
    | list others =>
      cases others with
      | nil => exact ⟨rfl, List.append_cancel_left same⟩
      | cons other others =>
        rw [renderAt_list_append] at same
        cases (List.cons.inj (List.cons.inj same).2).1
    | _ => cases shape
  | list (item :: items), second, level, rest, more, _, _, same => by
    have shape := shape_eq_of_append same
    cases second with
    | list others =>
      rw [renderAt_list_append] at same
      cases others with
      | nil => cases (List.cons.inj (List.cons.inj same).2).1
      | cons other others =>
        rw [renderAt_list_append] at same
        have inside := congrArg (',' :: ·) (List.cons.inj same).2
        rw [← renderItems_cons_append, ← renderItems_cons_append] at inside
        obtain ⟨all, behind⟩ :=
          renderItems_append_injective (item :: items) (other :: others) (level + 1) level inside
        exact ⟨congrArg list all, (List.cons.inj behind).2⟩
    | _ => cases shape
  | fields [], second, level, rest, more, _, _, same => by
    have shape := shape_eq_of_append same
    cases second with
    | fields others =>
      cases others with
      | nil => exact ⟨rfl, List.append_cancel_left same⟩
      | cons other others =>
        rw [renderAt_fields_append] at same
        cases (List.cons.inj (List.cons.inj same).2).1
    | _ => cases shape
  | fields ((name, value) :: members), second, level, rest, more, _, _, same => by
    have shape := shape_eq_of_append same
    cases second with
    | fields others =>
      rw [renderAt_fields_append] at same
      cases others with
      | nil => cases (List.cons.inj (List.cons.inj same).2).1
      | cons other others =>
        obtain ⟨other, otherValue⟩ := other
        rw [renderAt_fields_append] at same
        have inside := congrArg (',' :: ·) (List.cons.inj same).2
        rw [← renderMembers_cons_append, ← renderMembers_cons_append] at inside
        obtain ⟨all, behind⟩ := renderMembers_append_injective ((name, value) :: members)
          ((other, otherValue) :: others) (level + 1) level inside
        exact ⟨congrArg fields all, (List.cons.inj behind).2⟩
    | _ => cases shape

/-- The texts of the items behind the first determine them and what is behind the line break. -/
theorem renderItems_append_injective : ∀ (items others : List Outline) (level outer : Nat)
    {rest more : List Char},
    renderItems level items ++ (lineBreak outer ++ rest) =
      renderItems level others ++ (lineBreak outer ++ more) → items = others ∧ rest = more
  | [], [], level, outer, rest, more, same =>
    ⟨rfl, List.append_cancel_left same⟩
  | [], other :: others, level, outer, rest, more, same => by
    rw [renderItems_cons_append] at same
    cases (List.cons.inj same).1
  | item :: items, [], level, outer, rest, more, same => by
    rw [renderItems_cons_append] at same
    cases (List.cons.inj same).1
  | item :: items, other :: others, level, outer, rest, more, same => by
    rw [renderItems_cons_append, renderItems_cons_append] at same
    obtain ⟨rfl, behind⟩ := renderAt_append_injective item other level
      (ends_renderItems _ items (ends_lineBreak _ _))
      (ends_renderItems _ others (ends_lineBreak _ _))
      (List.append_cancel_left (List.cons.inj same).2)
    obtain ⟨rfl, after⟩ := renderItems_append_injective items others level outer behind
    exact ⟨rfl, after⟩

/-- The texts of the members behind the first determine them and what is behind the line break. -/
theorem renderMembers_append_injective : ∀ (members others : List (String × Outline))
    (level outer : Nat) {rest more : List Char},
    renderMembers level members ++ (lineBreak outer ++ rest) =
      renderMembers level others ++ (lineBreak outer ++ more) → members = others ∧ rest = more
  | [], [], level, outer, rest, more, same =>
    ⟨rfl, List.append_cancel_left same⟩
  | [], (name, value) :: others, level, outer, rest, more, same => by
    rw [renderMembers_cons_append] at same
    cases (List.cons.inj same).1
  | (name, value) :: members, [], level, outer, rest, more, same => by
    rw [renderMembers_cons_append] at same
    cases (List.cons.inj same).1
  | (name, value) :: members, (other, otherValue) :: others, level, outer, rest, more, same => by
    rw [renderMembers_cons_append, renderMembers_cons_append] at same
    obtain ⟨rfl, inside⟩ :=
      quote_append_injective (List.append_cancel_left (List.cons.inj same).2)
    obtain ⟨rfl, behind⟩ := renderAt_append_injective value otherValue level
      (ends_renderMembers _ members (ends_lineBreak _ _))
      (ends_renderMembers _ others (ends_lineBreak _ _)) (List.cons.inj (List.cons.inj inside).2).2
    obtain ⟨rfl, after⟩ := renderMembers_append_injective members others level outer behind
    exact ⟨rfl, after⟩

end

/-- Different outlines have different texts. -/
theorem render_injective {first second : Outline} (same : first.render = second.render) :
    first = second := by
  have characters := String.ofList_injective same
  refine (renderAt_append_injective first second 0 Numerals.ends_nil Numerals.ends_nil ?_).1
  rw [List.append_nil, List.append_nil, characters]

end FigureForm.Outline
