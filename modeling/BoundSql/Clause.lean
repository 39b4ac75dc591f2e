import BoundSql.Text.Blank

/-! The clauses that end a statement: sort order, limit and grouping. -/

namespace BoundSql

inductive Direction
  | ascending
  | descending
  deriving DecidableEq

namespace Direction

def sql : Direction → String
  | .ascending => "ASC"
  | .descending => "DESC"

def ofText? (text : String) : Option Direction :=
  let tag := String.ofList (Text.upper (Text.trim text.toList))
  if tag = "ASC" then some .ascending else if tag = "DESC" then some .descending else none

end Direction

structure OrderBy where
  column : String
  direction : Direction
  deriving DecidableEq

namespace OrderBy

def sql (order : OrderBy) : String := order.column ++ " " ++ order.direction.sql

def listSql (orders : List OrderBy) : String := ", ".intercalate (orders.map sql)

end OrderBy

inductive Limit
  | count (rows : UInt64)
  | range (skipped rows : UInt64)
  deriving DecidableEq

namespace Limit

def sql : Limit → String
  | .count rows => toString rows.toNat
  | .range skipped rows => toString skipped.toNat ++ ", " ++ toString rows.toNat

end Limit

end BoundSql
