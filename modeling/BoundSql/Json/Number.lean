import BoundSql.Binary64.Rounding
import BoundSql.Json
import BoundSql.Text.Reader
import BoundSql.Text.Digit

/-! Numbers of JSON documents. Whole numbers of 64 bits, signed or not, are exact. All others are
doubles: as many leading digits as fit an unsigned 64-bit significand, rounded once, then
multiplied or divided by a rounded power of ten. -/

namespace BoundSql.Json

open BoundSql.Text

def largestSignificand : Nat := UInt64.size - 1

structure Scaled where
  significand : Nat
  exponent : Int

/-- Takes integer digits while they fit; each further one raises the exponent. -/
def Scaled.integerDigits (number : Scaled) : List Char → Scaled
  | [] => number
  | digit :: rest =>
      let longer := number.significand * 10 + digitValue digit
      if longer ≤ largestSignificand then integerDigits { number with significand := longer } rest
      else { number with exponent := number.exponent + (rest.length + 1) }

/-- Takes fraction digits while they fit and drops the others. -/
def Scaled.fractionDigits (number : Scaled) : List Char → Scaled
  | [] => number
  | digit :: rest =>
      let longer := number.significand * 10 + digitValue digit
      if longer ≤ largestSignificand then fractionDigits ⟨longer, number.exponent - 1⟩ rest
      else number

def largestPower : Nat := 308

def powerOfTen (exponent : Nat) : Binary64 := Binary64.ofNat false (Nat.pow 10 exponent)

def lower (number : Binary64) (exponent : Nat) : Binary64 :=
  if exponent ≤ largestPower then number.dividedBy (powerOfTen exponent)
  else if number.isZero then number
  else lower (number.dividedBy (powerOfTen largestPower)) (exponent - largestPower)
termination_by exponent
decreasing_by simp only [largestPower] at *; omega

def raise? (number : Binary64) (exponent : Nat) : Option Binary64 :=
  if number.isZero then some number
  else if largestPower < exponent then none
  else
    let product := number.times (powerOfTen exponent)
    if product.isFinite then some product else none

def Scaled.value? (number : Scaled) : Option Binary64 :=
  let start := Binary64.ofNat false number.significand
  if 0 ≤ number.exponent then raise? start number.exponent.toNat
  else some (lower start (-number.exponent).toNat)

def signed (negative : Bool) (number : Binary64) : Binary64 :=
  if negative then ⟨number.bits ||| 0x8000000000000000⟩ else number

structure Numeral where
  negative : Bool
  integer : List Char
  fraction : Option (List Char)
  exponent : Option (Bool × List Char)

def Numeral.scaled (numeral : Numeral) : Scaled :=
  let whole := Scaled.integerDigits ⟨0, 0⟩ numeral.integer
  let number := whole.fractionDigits (numeral.fraction.getD [])
  match numeral.exponent with
  | none => number
  | some (negative, digits) =>
      let shift : Int := numberOf 10 digits
      { number with
        exponent := if negative then number.exponent - shift else number.exponent + shift }

/-- A whole number that has an exact form; minus zero has none. -/
def Numeral.whole? (numeral : Numeral) : Option Int :=
  let number := numberOf 10 numeral.integer
  if numeral.fraction.isSome || numeral.exponent.isSome then none
  else if numeral.negative then
    if 0 < number ∧ number ≤ Int64.minValue.toInt.natAbs then some (-number) else none
  else if number ≤ largestSignificand then some number
  else none

def Numeral.value? (numeral : Numeral) : Option Json :=
  match numeral.whole? with
  | some number => some (.int number)
  | none => numeral.scaled.value?.map fun number => .double (signed numeral.negative number)

def integerPart : Reader (List Char) := do
  let first ← Reader.satisfy isDigit
  if first = '0' then return ['0']
  let rest ← Reader.takeWhile isDigit
  return first :: rest

def fractionPart : Reader (List Char) := do
  Reader.char '.'
  Reader.takeSome isDigit

def exponentPart : Reader (Bool × List Char) := do
  let _ ← Reader.satisfy (fun char => char == 'e' || char == 'E')
  let sign ← Reader.optional (Reader.satisfy (fun char => char == '+' || char == '-'))
  let digits ← Reader.takeSome isDigit
  return (sign == some '-', digits)

def whenStarts {α : Type} (starts : Char → Bool) (part : Reader α) : Reader (Option α) := do
  match ← Reader.peek with
  | some char => if starts char then some <$> part else return none
  | none => return none

def numeral : Reader Numeral := do
  let sign ← Reader.optional (Reader.char '-')
  let integer ← integerPart
  let fraction ← whenStarts (· == '.') fractionPart
  let exponent ← whenStarts (fun char => char == 'e' || char == 'E') exponentPart
  return ⟨sign.isSome, integer, fraction, exponent⟩

def number : Reader Json := do
  let written ← numeral
  written.value?

end BoundSql.Json
