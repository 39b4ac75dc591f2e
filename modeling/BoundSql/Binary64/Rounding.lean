import BoundSql.Binary64

/-! Rounding of exact quotients to binary64: to the nearest number, a tie to the even one, and to
infinity past the largest finite number. -/

namespace BoundSql.Binary64

def roundHalfEven (numerator denominator : Nat) : Nat :=
  let quotient := numerator / denominator
  let twice := 2 * (numerator % denominator)
  if twice < denominator then quotient
  else if denominator < twice then quotient + 1
  else quotient + quotient % 2

def scaleDown (numerator denominator : Nat) (exponent : Int) : Nat × Nat :=
  if 0 ≤ exponent then (numerator, denominator * Nat.pow 2 exponent.toNat)
  else (numerator * Nat.pow 2 (-exponent).toNat, denominator)

def lastPlace (numerator denominator : Nat) : Int :=
  let guess : Int := (numerator.log2 : Int) - denominator.log2 - 52
  let scaled := scaleDown numerator denominator guess
  let exact := if scaled.1 < hiddenBit * scaled.2 then guess - 1 else guess
  max exact (-1074)

/-- The nearest number to a quotient. A mantissa that rounds up to the next power of two carries
into the exponent, because both parts are added into one code. -/
def ofRatio (negative : Bool) (numerator denominator : Nat) : Binary64 :=
  if numerator = 0 then zero negative
  else
    let place := lastPlace numerator denominator
    let scaled := scaleDown numerator denominator place
    let code := (place + 1074).toNat * hiddenBit + roundHalfEven scaled.1 scaled.2
    if infinityCode ≤ code then infinity negative else ofCode negative code

def ofNat (negative : Bool) (number : Nat) : Binary64 := ofRatio negative number 1

def ratio (number : Binary64) : Nat × Nat :=
  let magnitude := number.magnitude
  scaleDown magnitude.mantissa 1 (-magnitude.exponent)

def times (left right : Binary64) : Binary64 :=
  let first := left.ratio
  let second := right.ratio
  ofRatio (left.isNegative != right.isNegative) (first.1 * second.1) (first.2 * second.2)

def dividedBy (left right : Binary64) : Binary64 :=
  let first := left.ratio
  let second := right.ratio
  ofRatio (left.isNegative != right.isNegative) (first.1 * second.2) (first.2 * second.1)

def ofDecimal (negative : Bool) (digits : Nat) (exponent : Int) : Binary64 :=
  let size : Int := (Nat.toDigits 10 digits).length
  if digits = 0 then zero negative
  -- Powers that are certain to leave the range are not computed.
  else if 400 < size + exponent then infinity negative
  else if size + exponent < -400 then zero negative
  else if 0 ≤ exponent then ofRatio negative (digits * Nat.pow 10 exponent.toNat) 1
  else ofRatio negative digits (Nat.pow 10 (-exponent).toNat)

end BoundSql.Binary64
