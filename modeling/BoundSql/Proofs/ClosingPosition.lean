import BoundSql.Text.Position
import Mathlib.Data.List.Basic

/-! Texts that close with a position. The position is found from the end of the text: its numbers
may have any digits, zeros in front included, and must fit 64 bits. -/

namespace BoundSql.Text

structure Writes (digits : List Char) (number : Nat) : Prop where
  given : digits ≠ []
  every : ∀ digit ∈ digits, digit.isDigit = true
  value : Nat.ofDigitChars 10 digits 0 = number
  fits : number < UInt64.size

/-- The text is the body with a line and a column after it. -/
def ClosesWith (text body : String) (position : Position) : Prop :=
  ∃ line column, Writes line position.line ∧ Writes column position.column ∧
    text = body ++ " at line " ++ String.ofList line ++ " column " ++ String.ofList column

theorem isDigit_eq (char : Char) : isDigit char = char.isDigit := rfl

theorem digitValue_of_isDigit {digit : Char} (decimal : digit.isDigit = true) :
    digitValue digit = digit.toNat - '0'.toNat :=
  if_pos decimal

theorem numberOf_eq_ofDigitChars {digits : List Char}
    (every : ∀ digit ∈ digits, digit.isDigit = true) :
    numberOf 10 digits = Nat.ofDigitChars 10 digits 0 := by
  apply List.foldl_ext
  intro number digit member
  rw [digitValue_of_isDigit (every digit member), Nat.mul_comm]

section Closing

variable {words : String} {last : Char} {earlier : List Char}
variable (ends : words.toList.reverse = last :: earlier) (noDigit : isDigit last = false)
include ends noDigit

theorem takeWhile_isDigit_closing (before : List Char) {digits : List Char}
    (every : ∀ digit ∈ digits, digit.isDigit = true) :
    (digits.reverse ++ words.toList.reverse ++ before).takeWhile isDigit = digits.reverse ∧
      (digits.reverse ++ words.toList.reverse ++ before).dropWhile isDigit =
        words.toList.reverse ++ before := by
  have reversed : ∀ digit ∈ digits.reverse, isDigit digit = true := by
    simpa [isDigit_eq] using every
  rw [List.append_assoc, List.takeWhile_append_of_pos reversed,
    List.dropWhile_append_of_pos reversed, ends]
  simp [noDigit]

theorem closingNumber?_eq_some_iff {reversed before : List Char} {number : Nat} :
    closingNumber? words reversed = some (number, before) ↔
      ∃ digits, Writes digits number ∧
        reversed = digits.reverse ++ words.toList.reverse ++ before := by
  simp only [closingNumber?, Option.ite_none_right_eq_some, Option.some.injEq, Prod.mk.injEq,
    List.isPrefixOf_iff_prefix]
  constructor
  · rintro ⟨⟨given, fits, after, found⟩, rfl, rfl⟩
    have every : ∀ digit ∈ reversed.takeWhile isDigit, isDigit digit = true :=
      List.all_eq_true.mp List.all_takeWhile
    have decimal : ∀ digit ∈ (reversed.takeWhile isDigit).reverse, digit.isDigit = true := by
      simpa [isDigit_eq] using every
    refine ⟨_, ⟨given, decimal, (numberOf_eq_ofDigitChars decimal).symm, fits⟩, ?_⟩
    rw [← found, ← String.length_toList, ← List.length_reverse, List.drop_left,
      List.reverse_reverse, List.append_assoc, found, List.takeWhile_append_dropWhile]
  · rintro ⟨digits, ⟨given, every, value, fits⟩, rfl⟩
    obtain ⟨taken, dropped⟩ := takeWhile_isDigit_closing ends noDigit before every
    rw [taken, dropped, List.reverse_reverse, numberOf_eq_ofDigitChars every, value]
    refine ⟨⟨given, fits, List.prefix_append _ _⟩, rfl, ?_⟩
    rw [← String.length_toList, ← List.length_reverse, List.drop_left]

end Closing

theorem splitPosition?_eq_some_iff {text body : String} {position : Position} :
    splitPosition? text = some (body, position) ↔ ClosesWith text body position := by
  have column := @closingNumber?_eq_some_iff " column " _ _ rfl rfl
  have line := @closingNumber?_eq_some_iff " at line " _ _ rfl rfl
  constructor
  · intro split
    obtain ⟨⟨columnNumber, rest⟩, atColumn, split⟩ := Option.bind_eq_some_iff.mp split
    obtain ⟨⟨lineNumber, rest⟩, atLine, same⟩ := Option.bind_eq_some_iff.mp split
    cases same
    obtain ⟨columnDigits, columnWritten, reversed⟩ := column.mp atColumn
    obtain ⟨lineDigits, lineWritten, rfl⟩ := line.mp atLine
    refine ⟨lineDigits, columnDigits, lineWritten, columnWritten, String.toList_inj.mp ?_⟩
    rw [← List.reverse_reverse text.toList, reversed]
    simp
  · rintro ⟨lineDigits, columnDigits, lineWritten, columnWritten, rfl⟩
    let rest := lineDigits.reverse ++ " at line ".toList.reverse ++ body.toList.reverse
    have atLine : closingNumber? " at line " rest = some (position.line, body.toList.reverse) :=
      line.mpr ⟨lineDigits, lineWritten, rfl⟩
    refine Option.bind_eq_some_iff.mpr ⟨(position.column, rest), ?_,
      Option.bind_eq_some_iff.mpr ⟨_, atLine, ?_⟩⟩
    · exact column.mpr ⟨columnDigits, columnWritten, by simp [rest]⟩
    · have same : String.ofList body.toList.reverse.reverse = body := by simp
      exact congrArg (fun body => some (body, position)) same

theorem splitPosition?_eq_none_iff {text : String} :
    splitPosition? text = none ↔ ∀ body position, ¬ClosesWith text body position := by
  simp only [← splitPosition?_eq_some_iff, Option.eq_none_iff_forall_ne_some, Prod.forall, Ne]

end BoundSql.Text
