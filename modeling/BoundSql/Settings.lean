import BoundSql.Dialect
import BoundSql.Keyed

/-! Settings: how to log, and for each database alias the engine and what is stamped on its
statements. -/

namespace BoundSql

structure DatabaseSettings where
  engine : String := Dialect.standardEngine
  tablePrefix : String := ""
  tableOptions : Option String := none
  deriving DecidableEq

structure Settings where
  debug : Bool := true
  logLevel : String := "info"
  databases : Keyed DatabaseSettings := [("default", {})]

namespace Settings

def defaultAlias : String := "default"

def database? (settings : Settings) (name : String) : Option DatabaseSettings :=
  Keyed.find? name settings.databases

def defaultDatabase? (settings : Settings) : Option DatabaseSettings :=
  settings.database? defaultAlias

end Settings

end BoundSql
