/-! Column types and descriptors. A column has a type of its own or takes the type of another
entity's identity column. -/

namespace BoundSql

inductive ColumnType
  | int
  | string
  | text
  | list
  | bool
  deriving DecidableEq

namespace ColumnType

def tag : ColumnType → String
  | .int => "int"
  | .string => "string"
  | .text => "text"
  | .list => "list"
  | .bool => "bool"

def ofTag? : String → Option ColumnType
  | "int" => some .int
  | "string" => some .string
  | "text" => some .text
  | "list" => some .list
  | "bool" => some .bool
  | _ => none

theorem ofTag?_tag (columnType : ColumnType) : ofTag? columnType.tag = some columnType := by
  cases columnType <;> rfl

end ColumnType

inductive BaseType
  | atomic (columnType : ColumnType)
  | reference (entity : String)
  deriving DecidableEq

structure Descriptor where
  base : BaseType
  primary : Bool := false
  auto : Bool := false
  nullable : Option Bool := none
  defaultText : Option String := none
  deriving DecidableEq

namespace Descriptor

/-- The descriptor as seen through a reference: a referring column is no key itself. -/
def withoutKey (descriptor : Descriptor) : Descriptor :=
  { descriptor with primary := false, auto := false }

end Descriptor

end BoundSql
