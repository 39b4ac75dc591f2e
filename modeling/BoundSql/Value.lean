import BoundSql.Binary64
import BoundSql.Calendar

/-! Values that are bound to placeholders. Equality of values is numeric on doubles and never
holds between kinds. -/

namespace BoundSql

inductive Value
  | null
  | bool (value : Bool)
  | int (value : Int64)
  | double (value : Binary64)
  | text (value : String)
  | bytes (value : List UInt8)
  | date (value : Date)
  | dateTime (value : DateTime)
  | time (value : TimeOfDay)
  | uuid (value : Uuid)
  deriving DecidableEq

namespace Value

def isNull : Value → Bool
  | .null => true
  | _ => false

/-- Equality as the values compare: a NaN is no value's equal and the two zeros are one. -/
def equals : Value → Value → Bool
  | .double left, .double right => left.equals right
  | left, right => decide (left = right)

/-- The first occurrence of each value, `kept` being the ones found before. -/
def distinctFrom (kept : List Value) : List Value → List Value
  | [] => []
  | value :: rest =>
      if kept.any (·.equals value) then distinctFrom kept rest
      else value :: distinctFrom (kept ++ [value]) rest

def distinct (values : List Value) : List Value := distinctFrom [] values

theorem equals_comm (left right : Value) : left.equals right = right.equals left := by
  cases left <;> cases right <;> simp [equals, eq_comm, Binary64.equals_comm]

theorem equals_trans (left middle right : Value) (first : left.equals middle = true)
    (second : middle.equals right = true) : left.equals right = true := by
  cases left <;> cases middle <;> cases right <;> simp_all [equals]
  exact Binary64.equals_trans _ _ _ first second

def ofOption {α : Type} (convert : α → Value) : Option α → Value
  | none => .null
  | some content => convert content

end Value

inductive Assigned
  | bound (value : Value)
  | raw (sql : String)
  deriving DecidableEq

end BoundSql
