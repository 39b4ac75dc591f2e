import BoundSql.Binary64.Rounding
import BoundSql.Json
import BoundSql.Toml.Text

/-! Numbers, truth values and dates of TOML documents, as JSON values. Infinite numbers and NaN
become null, and a date becomes an object around its text. -/

namespace BoundSql.Toml

open BoundSql.Text

/-- Digits with single underscores between them, which are left out of the result. -/
def digitRun (accepts : Char → Bool) : Reader (List Char) := do
  let first ← Reader.satisfy accepts
  let rest ← Reader.many (do
    let _ ← Reader.optional (Reader.char '_')
    Reader.satisfy accepts)
  return first :: rest

def sign : Reader Bool := do
  let written ← Reader.optional (Reader.satisfy (fun char => char == '+' || char == '-'))
  return written == some '-'

def decimalDigits : Reader (List Char) := do
  match ← Reader.peek with
  | some '0' =>
      Reader.char '0'
      return ['0']
  | _ => digitRun isDigit

def wholeNumber (negative : Bool) (number : Nat) : Option Json :=
  let value : Int := if negative then -number else number
  if Int64.minValue.toInt ≤ value ∧ value ≤ Int64.maxValue.toInt then some (.int value) else none

def decimalInteger : Reader Json := do
  let negative ← sign
  let digits ← decimalDigits
  wholeNumber negative (numberOf 10 digits)

def prefixedInteger (letter : Char) (base : Nat) (accepts : Char → Bool) : Reader Json := do
  Reader.chars ['0', letter]
  let digits ← digitRun accepts
  wholeNumber false (numberOf base digits)

def isOctalDigit (char : Char) : Bool := '0' ≤ char && char ≤ '7'

def isBinaryDigit (char : Char) : Bool := char == '0' || char == '1'

def integer : Reader Json :=
  prefixedInteger 'x' 16 isHexDigit <|> prefixedInteger 'o' 8 isOctalDigit <|>
    prefixedInteger 'b' 2 isBinaryDigit <|> decimalInteger

def fractionPart : Reader (List Char) := do
  Reader.char '.'
  digitRun isDigit

def exponentPart : Reader Int := do
  let _ ← Reader.satisfy (fun char => char == 'e' || char == 'E')
  let negative ← sign
  let digits ← digitRun isDigit
  return if negative then -numberOf 10 digits else numberOf 10 digits

def doubleJson (number : Binary64) : Json := if number.isFinite then .double number else .null

def decimalFloat : Reader Json := do
  let negative ← sign
  let whole ← decimalDigits
  let fraction ← Reader.optional fractionPart
  let exponent ← Reader.optional exponentPart
  if fraction.isNone && exponent.isNone then failure
  let places := fraction.getD []
  let number := Binary64.ofDecimal negative (numberOf 10 (whole ++ places))
    (exponent.getD 0 - places.length)
  if number = Binary64.infinity false then failure
  return doubleJson number

def specialFloat : Reader Json := do
  let _ ← sign
  Reader.literal "inf" <|> Reader.literal "nan"
  return .null

def float : Reader Json := decimalFloat <|> specialFloat

def twoDigits (low high : Nat) : Reader Nat := do
  let digits ← Reader.takeExactly 2 isDigit
  let number := numberOf 10 digits
  if low ≤ number ∧ number ≤ high then return number else failure

def isLeapYear (year : Nat) : Bool := year % 4 == 0 && (year % 100 != 0 || year % 400 == 0)

def daysInMonth (year month : Nat) : Nat :=
  if month = 2 then if isLeapYear year then 29 else 28
  else if month = 4 ∨ month = 6 ∨ month = 9 ∨ month = 11 then 30
  else 31

def fullDate : Reader (List Char) := do
  let year ← Reader.takeExactly 4 isDigit
  Reader.char '-'
  let month ← twoDigits 1 12
  Reader.char '-'
  let day ← twoDigits 1 31
  if daysInMonth (numberOf 10 year) month < day then failure
  return year ++ '-' :: padded 2 month ++ '-' :: padded 2 day

def secondFraction : Reader (List Char) := do
  Reader.char '.'
  let digits ← Reader.takeSome isDigit
  match ((digits.take 9).reverse.dropWhile (· == '0')).reverse with
  | [] => return []
  | kept => return '.' :: kept

def partialTime : Reader (List Char) := do
  let hour ← twoDigits 0 23
  Reader.char ':'
  let minute ← twoDigits 0 59
  Reader.char ':'
  let second ← twoDigits 0 60
  let fraction ← Reader.optional secondFraction
  return padded 2 hour ++ ':' :: padded 2 minute ++ ':' :: padded 2 second ++ fraction.getD []

/-- An offset of nothing is written with a plus. -/
def numericOffset : Reader (List Char) := do
  let written ← Reader.satisfy (fun char => char == '+' || char == '-')
  let hour ← twoDigits 0 23
  Reader.char ':'
  let minute ← twoDigits 0 59
  let mark := if hour = 0 ∧ minute = 0 then '+' else written
  return mark :: padded 2 hour ++ ':' :: padded 2 minute

def zuluOffset : Reader (List Char) := do
  let _ ← Reader.satisfy (fun char => char == 'Z' || char == 'z')
  return ['Z']

def timeOfDay : Reader (List Char) := do
  let _ ← Reader.satisfy (fun char => char == 'T' || char == 't' || char == ' ')
  let time ← partialTime
  let offset ← Reader.optional (zuluOffset <|> numericOffset)
  return 'T' :: time ++ offset.getD []

def dateAndTime : Reader (List Char) := do
  let date ← fullDate
  let time ← Reader.optional timeOfDay
  return date ++ time.getD []

def dateMember : String := "$__toml_private_datetime"

def date : Reader Json := do
  let text ← dateAndTime <|> partialTime
  return .object [(dateMember, .text (String.ofList text))]

def keyword (text : String) (value : Json) : Reader Json := do
  Reader.literal text
  return value

def isNumberStart (char : Char) : Bool :=
  isDigit char || char == '+' || char == '-' || char == 'i' || char == 'n'

def scalar : Reader Json := do
  match ← Reader.peek with
  | some '"' => .text <$> string
  | some '\'' => .text <$> string
  | some 't' => keyword "true" (.bool true)
  | some 'f' => keyword "false" (.bool false)
  | some char => if isNumberStart char then date <|> float <|> integer else failure
  | none => failure

end BoundSql.Toml
