import BoundSql.Log
import BoundSql.Settings

/-! Environment variables and the settings that they override. A variable counts as set when it
holds valid Unicode, even if it is empty. -/

namespace BoundSql

structure Environment where
  entries : Keyed ByteArray

namespace Environment

def text? (environment : Environment) (name : String) : Option String :=
  match Keyed.find? name environment.entries with
  | some bytes => String.fromUTF8? bytes
  | none => none

def debugVariable : String := "CF_DEBUG"

def logLevelVariable : String := "CF_LOG_LEVEL"

def engineVariable : String := "CF_DB_ENGINE"

def tablePrefixVariable : String := "CF_TABLE_PREFIX"

def override? (environment : Environment) (name : String) : Logged (Option String) :=
  match environment.text? name with
  | some text => do
      Logged.emit (.overriding name)
      return some text
  | none => return none

/-- The words that switch a flag on, in any case of letters. -/
def isOn (text : String) : Bool :=
  ["1", "true", "yes", "on"].contains (String.ofList (Text.lower text.toList))

end Environment

namespace Settings

/-- Changes the default database, which starts from the built-in settings if there is none. -/
def changeDefault (change : DatabaseSettings → DatabaseSettings) (settings : Settings) : Settings :=
  { settings with
    databases := Keyed.put defaultAlias (change (settings.defaultDatabase?.getD {}))
      settings.databases }

def setDebug (flag : String) (settings : Settings) : Settings :=
  { settings with debug := Environment.isOn flag }

def setLogLevel (level : String) (settings : Settings) : Settings :=
  { settings with logLevel := level }

def setEngine (engine : String) : Settings → Settings :=
  changeDefault fun database => { database with engine }

def setTablePrefix (tablePrefix : String) : Settings → Settings :=
  changeDefault fun database => { database with tablePrefix }

def overriding (environment : Environment) (name : String) (change : String → Settings → Settings)
    (settings : Settings) : Logged Settings := do
  match ← environment.override? name with
  | some text => return change text settings
  | none => return settings

def withEnvironment (environment : Environment) (settings : Settings) : Logged Settings := do
  let settings ← settings.overriding environment Environment.debugVariable setDebug
  let settings ← settings.overriding environment Environment.logLevelVariable setLogLevel
  let settings ← settings.overriding environment Environment.engineVariable setEngine
  settings.overriding environment Environment.tablePrefixVariable setTablePrefix

end Settings

end BoundSql
