import BoundSql.Text.Digit

/-! Positions that close a report. A text which closes with a line and a column is taken at its
word: the two are written anew in plain decimals, and line zero stands for no position at all. -/

namespace BoundSql.Text

structure Position where
  line : Nat
  column : Nat
  deriving DecidableEq

def closingNumber? (words : String) (reversed : List Char) : Option (Nat × List Char) :=
  let digits := (reversed.takeWhile isDigit).reverse
  let before := reversed.dropWhile isDigit
  let number := numberOf 10 digits
  if digits ≠ [] ∧ number < UInt64.size ∧ words.toList.reverse.isPrefixOf before = true then
    some (number, before.drop words.length)
  else none

def splitPosition? (text : String) : Option (String × Position) := do
  let (column, rest) ← closingNumber? " column " text.toList.reverse
  let (line, rest) ← closingNumber? " at line " rest
  return (String.ofList rest.reverse, ⟨line, column⟩)

/-- A text with the position that closes it; lines are counted from one. -/
def Position.close (position : Position) (text : String) : String :=
  if position.line = 0 then text
  else text ++ " at line " ++ toString position.line ++ " column " ++ toString position.column

def repositioned (text : String) : String :=
  match splitPosition? text with
  | some (body, position) => position.close body
  | none => text

end BoundSql.Text
