/-
# Numbers in texts

A number that is written in decimal digits ends where no further digit stands.  So the text of a number
with something behind it that does not begin with a digit determines both the number and what is
behind it.
-/

namespace FigureForm.Numerals

/-- Whether a text does not begin with a digit, so that it ends a number in front of it. -/
def Ends (rest : List Char) : Prop :=
  ∀ c ∈ rest.head?, c.isDigit = false

theorem ends_nil : Ends [] :=
  fun _ among => nomatch among

theorem ends_cons {c : Char} (notDigit : c.isDigit = false) (rest : List Char) :
    Ends (c :: rest) := by
  intro other among
  cases among
  exact notDigit

theorem isDigit_of_mem_toDigits {number : Nat} {c : Char} (digit : c ∈ Nat.toDigits 10 number) :
    c.isDigit = true :=
  Nat.isDigit_of_mem_toDigits (by decide) (by decide) digit

theorem takeWhile_toDigits_append (number : Nat) {rest : List Char} (ends : Ends rest) :
    (Nat.toDigits 10 number ++ rest).takeWhile Char.isDigit = Nat.toDigits 10 number := by
  rw [List.takeWhile_append_of_pos fun c digit => isDigit_of_mem_toDigits digit]
  have nothing : rest.takeWhile Char.isDigit = [] := by
    cases rest with
    | nil => rfl
    | cons c rest => exact List.takeWhile_cons_of_neg (by simp [ends c rfl])
  rw [nothing, List.append_nil]

/-- The digits of a number determine it and what is behind them. -/
theorem toDigits_append_injective {first second : Nat} {rest more : List Char} (ends : Ends rest)
    (others : Ends more) (same : Nat.toDigits 10 first ++ rest = Nat.toDigits 10 second ++ more) :
    first = second ∧ rest = more := by
  have digits : Nat.toDigits 10 first = Nat.toDigits 10 second := by
    rw [← takeWhile_toDigits_append first ends, same, takeWhile_toDigits_append second others]
  constructor
  · rw [← Nat.ofDigitChars_ten_toDigits (n := first), digits, Nat.ofDigitChars_ten_toDigits]
  · rw [digits] at same
    exact List.append_cancel_left same

theorem exists_digit (number : Nat) :
    ∃ c rest, Nat.toDigits 10 number = c :: rest ∧ c.isDigit = true := by
  cases written : Nat.toDigits 10 number with
  | nil => exact (Nat.toDigits_ne_nil written).elim
  | cons c rest =>
    exact ⟨c, rest, rfl, isDigit_of_mem_toDigits (by rw [written]; exact List.mem_cons_self)⟩

theorem minus_ne_toDigits_append (number : Nat) (rest more : List Char) :
    '-' :: rest ≠ Nat.toDigits 10 number ++ more := by
  intro same
  obtain ⟨c, digits, written, digit⟩ := exists_digit number
  rw [written] at same
  obtain rfl : '-' = c := (List.cons.inj same).1
  cases digit

theorem toList_toString_ofNat (number : Nat) :
    (toString (Int.ofNat number)).toList = Nat.toDigits 10 number :=
  Nat.toList_repr

theorem toList_toString_negSucc (number : Nat) :
    (toString (Int.negSucc number)).toList = '-' :: Nat.toDigits 10 (number + 1) := by
  rw [show toString (Int.negSucc number) = "-" ++ (number + 1).repr from rfl,
    String.toList_append, Nat.toList_repr]
  rfl

/-- The text of a whole number determines it and what is behind it. -/
theorem toString_append_injective {first second : Int} {rest more : List Char} (ends : Ends rest)
    (others : Ends more)
    (same : (toString first).toList ++ rest = (toString second).toList ++ more) :
    first = second ∧ rest = more := by
  cases first with
  | ofNat first =>
    cases second with
    | ofNat second =>
      rw [toList_toString_ofNat, toList_toString_ofNat] at same
      obtain ⟨rfl, behind⟩ := toDigits_append_injective ends others same
      exact ⟨rfl, behind⟩
    | negSucc second =>
      rw [toList_toString_ofNat, toList_toString_negSucc] at same
      exact (minus_ne_toDigits_append first _ rest same.symm).elim
  | negSucc first =>
    cases second with
    | ofNat second =>
      rw [toList_toString_ofNat, toList_toString_negSucc] at same
      exact (minus_ne_toDigits_append second _ more same).elim
    | negSucc second =>
      rw [toList_toString_negSucc, toList_toString_negSucc] at same
      injection same with _ same
      obtain ⟨numbers, behind⟩ := toDigits_append_injective ends others same
      exact ⟨congrArg Int.negSucc (Nat.succ.inj numbers), behind⟩

end FigureForm.Numerals
