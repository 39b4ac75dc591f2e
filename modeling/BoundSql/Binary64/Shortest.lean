import BoundSql.Binary64.Rounding

/-! The shortest decimal that reads back as a binary64 number and, of the shortest ones, the
nearest. -/

namespace BoundSql.Binary64

structure Decimal where
  digits : List Char
  point : Int

/-- The quotients that round to a finite number other than zero, all over one denominator. -/
structure Interval where
  low : Nat
  middle : Nat
  high : Nat
  denominator : Nat
  closed : Bool

/-- Half a place on either side; below a power of two the lower neighbour is nearer. -/
def interval (number : Binary64) : Interval :=
  let magnitude := number.magnitude
  let mantissa := magnitude.mantissa
  let below := if mantissa = hiddenBit ∧ 1 < number.exponentField then 1 else 2
  let unit := scaleDown 1 4 (-magnitude.exponent)
  { low := (4 * mantissa - below) * unit.1
    middle := 4 * mantissa * unit.1
    high := (4 * mantissa + 2) * unit.1
    denominator := unit.2
    closed := mantissa % 2 == 0 }

def Interval.scaled (range : Interval) (up down : Nat) : Interval :=
  { range with
    low := range.low * up
    middle := range.middle * up
    high := range.high * up
    denominator := range.denominator * down }

def Interval.holds (range : Interval) (integer : Nat) : Bool :=
  let numerator := integer * range.denominator
  if range.closed then range.low ≤ numerator && numerator ≤ range.high
  else range.low < numerator && numerator < range.high

def decimalPoint (numerator denominator : Nat) : Int :=
  let guess : Int :=
    ((Nat.toDigits 10 numerator).length : Int) - (Nat.toDigits 10 denominator).length
  let below := if 0 ≤ guess then numerator < denominator * Nat.pow 10 guess.toNat
    else numerator * Nat.pow 10 (-guess).toNat < denominator
  if below then guess else guess + 1

def Interval.nearest? (range : Interval) : Option Nat :=
  let lower := range.middle / range.denominator
  let twice := 2 * (range.middle % range.denominator)
  match range.holds lower, range.holds (lower + 1) with
  | false, false => none
  | true, false => some lower
  | false, true => some (lower + 1)
  | true, true =>
      if twice < range.denominator then some lower
      else if range.denominator < twice then some (lower + 1)
      else some (lower + lower % 2)

def Interval.nearestOnGrid? (range : Interval) (place : Int) : Option Nat :=
  if 0 ≤ place then (range.scaled 1 (Nat.pow 10 place.toNat)).nearest?
  else (range.scaled (Nat.pow 10 (-place).toNat) 1).nearest?

def shortestFrom (range : Interval) (point : Int) : Nat → Nat → Nat × Int
  | 0, _ => (range.middle / range.denominator, 0)
  | fuel + 1, count =>
      match range.nearestOnGrid? (point - count) with
      | some digits => (digits, point - count)
      | none => shortestFrom range point fuel (count + 1)

def dropTrailingZeros (digits : List Char) : List Char :=
  (digits.reverse.dropWhile (· == '0')).reverse

def shortest (number : Binary64) : Decimal :=
  let range := number.interval
  -- Seventeen digits are always enough.
  let found := shortestFrom range (decimalPoint range.middle range.denominator) 17 1
  let digits := Nat.toDigits 10 found.1
  ⟨dropTrailingZeros digits, digits.length + found.2⟩

end BoundSql.Binary64
