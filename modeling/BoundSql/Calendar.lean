/-! Dates, times of day and unique identifiers as plain data. -/

namespace BoundSql

structure Date where
  year : Int
  month : Nat
  day : Nat
  deriving DecidableEq

/-- A time of day; in a leap second the nanoseconds go on past a thousand million. -/
structure TimeOfDay where
  hour : Nat
  minute : Nat
  second : Nat
  nanosecond : Nat
  deriving DecidableEq

structure DateTime where
  date : Date
  time : TimeOfDay
  deriving DecidableEq

structure Uuid where
  octets : List UInt8
  deriving DecidableEq

end BoundSql
