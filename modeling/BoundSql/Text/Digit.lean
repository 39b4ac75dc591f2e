/-! Digits of a base and the numbers they write. -/

namespace BoundSql.Text

def isDigit (char : Char) : Bool := '0' ≤ char && char ≤ '9'

def digitValue (char : Char) : Nat :=
  if '0' ≤ char && char ≤ '9' then char.toNat - '0'.toNat
  else if 'a' ≤ char && char ≤ 'f' then char.toNat - 'a'.toNat + 10
  else char.toNat - 'A'.toNat + 10

def isHexDigit (char : Char) : Bool :=
  isDigit char || ('a' ≤ char && char ≤ 'f') || ('A' ≤ char && char ≤ 'F')

/-- The number that `digits` write in `base`, most significant digit first. -/
def numberOf (base : Nat) (digits : List Char) : Nat :=
  digits.foldl (fun number digit => number * base + digitValue digit) 0

def digitsOf (base : Nat) (number : Nat) : List Char := Nat.toDigits base number

def padded (width : Nat) (number : Nat) : List Char :=
  let digits := digitsOf 10 number
  List.replicate (width - digits.length) '0' ++ digits

def scalar? (code : Nat) : Option Char :=
  if code.isValidChar then some (Char.ofNat code) else none

theorem numberOf_nil (base : Nat) : numberOf base [] = 0 := rfl

theorem numberOf_append_digit (base : Nat) (digits : List Char) (digit : Char) :
    numberOf base (digits ++ [digit]) = numberOf base digits * base + digitValue digit := by
  simp [numberOf, List.foldl_append]

theorem toString_inj {number other : Nat} (same : toString number = toString other) :
    number = other := by
  have digits : Nat.toDigits 10 number = Nat.toDigits 10 other := by
    simpa using congrArg String.toList same
  have read := congrArg (Nat.ofDigitChars 10 · 0) digits
  simpa using read

end BoundSql.Text
