import BoundSql.Column
import BoundSql.Keyed

/-! Entity schemas: columns in declaration order and the column that identifies an entity. -/

namespace BoundSql

structure Schema where
  explicitIdentity : Option String := none
  columns : List (String × Descriptor) := []
  deriving DecidableEq

namespace Schema

/-- The explicit identity column, or else the first column that is a primary key. -/
def identity? (schema : Schema) : Option String :=
  match schema.explicitIdentity with
  | some name => some name
  | none => (schema.columns.find? fun column => column.2.primary).map Prod.fst

def descriptor? (schema : Schema) (name : String) : Option Descriptor :=
  Keyed.find? name schema.columns

end Schema

abbrev Registry := Keyed Schema

namespace Registry

def register (entity : String) (schema : Schema) (registry : Registry) : Registry :=
  Keyed.put entity schema registry

def schema? (entity : String) (registry : Registry) : Option Schema := Keyed.find? entity registry

end Registry

end BoundSql
