import BoundSql.Error

/-! Dialects: the type names and the tokens that column definitions are written with. -/

namespace BoundSql

structure Dialect where
  name : String
  typeSql : ColumnType → Option String
  autoIncrement : String
  primaryKey : String := "PRIMARY KEY"
  nullable : String := "NULL"
  notNullable : String := "NOT NULL"
  defaultKeyword : String := "DEFAULT"

namespace Dialect

def sqliteType : ColumnType → String
  | .int => "INTEGER"
  | .string => "VARCHAR(120)"
  | .text => "TEXT"
  | .list => "VARCHAR(255)"
  | .bool => "TINYINT(1)"

def sqlite : Dialect where
  name := "sqlite"
  typeSql := fun columnType => some (sqliteType columnType)
  autoIncrement := "AUTOINCREMENT"

def standardEngine : String := "cf_rs.db.backends.sqlite3"

def ofEngine (engine : String) : Except Error Dialect :=
  if engine = standardEngine ∨ engine = "sqlite" ∨ engine = "sqlite3" then .ok sqlite
  else .error (.unknownEngine engine)

def nullability (dialect : Dialect) (nullable : Bool) : String :=
  if nullable then dialect.nullable else dialect.notNullable

def introduction (dialect : Dialect) : String :=
  "SqlCompiler \x7b dialect: " ++ Text.quoted dialect.name ++ " \x7d"

end Dialect

end BoundSql
