import BoundSql.Error
import BoundSql.Json.Reader
import BoundSql.Settings
import BoundSql.Toml.Reader

/-! Settings from documents. A document is laid over the defaults, and the result has to fit: the
members that are present are checked in their order, then those that are missing are noticed. An
array may stand for a group of settings, by its items in the order of the fields. -/

namespace BoundSql

namespace Json

def asBool : Json → Except Mismatch Bool
  | .bool content => .ok content
  | found => .error (.wrongType found .boolean)

def asText : Json → Except Mismatch String
  | .text content => .ok content
  | found => .error (.wrongType found .text)

def asOptionalText : Json → Except Mismatch (Option String)
  | .null => .ok none
  | .text content => .ok (some content)
  | found => .error (.wrongType found .text)

def required (name : String) (members : List (String × Json)) : Except Mismatch Json :=
  match Keyed.find? name members with
  | some content => .ok content
  | none => .error (.missingField name)

def checkMembers (check : String → Json → Except Mismatch Unit) :
    List (String × Json) → Except Mismatch Unit
  | [] => .ok ()
  | (name, content) :: rest => do
      check name content
      checkMembers check rest

end Json

namespace DatabaseSettings

def checkMember (name : String) (content : Json) : Except Mismatch Unit :=
  match name with
  | "engine" => discard content.asText
  | "table_prefix" => discard content.asText
  | "table_options" => discard content.asOptionalText
  | _ => .ok ()

def ofMembers (members : List (String × Json)) : Except Mismatch DatabaseSettings := do
  Json.checkMembers checkMember members
  let engine ← Json.required "engine" members
  let tablePrefix ← Json.required "table_prefix" members
  let tableOptions := (Keyed.find? "table_options" members).getD .null
  return {
    engine := ← engine.asText
    tablePrefix := ← tablePrefix.asText
    tableOptions := ← tableOptions.asOptionalText }

def ofItems : List Json → Except Mismatch DatabaseSettings
  | [] => .error (.tooShort 0 .databaseSettings)
  | first :: rest => do
      let engine ← first.asText
      match rest with
      | [] => .error (.tooShort 1 .databaseSettings)
      | second :: rest => do
          let tablePrefix ← second.asText
          match rest with
          | [] => .error (.tooShort 2 .databaseSettings)
          | third :: rest => do
              let tableOptions ← third.asOptionalText
              if rest.isEmpty then return { engine, tablePrefix, tableOptions }
              else .error (.tooLong (3 + rest.length))

def ofJson : Json → Except Mismatch DatabaseSettings
  | .object members => ofMembers members
  | .array items => ofItems items
  | found => .error (.wrongType found .databaseSettings)

def keyedOfMembers : List (String × Json) → Except Mismatch (Keyed DatabaseSettings)
  | [] => .ok []
  | (name, json) :: rest => do
      let database ← ofJson json
      let others ← keyedOfMembers rest
      return (name, database) :: others

def keyedOfJson : Json → Except Mismatch (Keyed DatabaseSettings)
  | .object members => keyedOfMembers members
  | found => .error (.wrongType found .map)

def toJson (database : DatabaseSettings) : Json :=
  .object [
    ("engine", .text database.engine),
    ("table_prefix", .text database.tablePrefix),
    ("table_options", match database.tableOptions with
      | some options => .text options
      | none => .null)]

end DatabaseSettings

namespace Settings

def checkMember (name : String) (content : Json) : Except Mismatch Unit :=
  match name with
  | "debug" => discard content.asBool
  | "log_level" => discard content.asText
  | "databases" => discard (DatabaseSettings.keyedOfJson content)
  | _ => .ok ()

def ofMembers (members : List (String × Json)) : Except Mismatch Settings := do
  Json.checkMembers checkMember members
  let debug ← Json.required "debug" members
  let logLevel ← Json.required "log_level" members
  let databases ← Json.required "databases" members
  return {
    debug := ← debug.asBool
    logLevel := ← logLevel.asText
    databases := ← DatabaseSettings.keyedOfJson databases }

def ofItems : List Json → Except Mismatch Settings
  | [] => .error (.tooShort 0 .settings)
  | first :: rest => do
      let debug ← first.asBool
      match rest with
      | [] => .error (.tooShort 1 .settings)
      | second :: rest => do
          let logLevel ← second.asText
          match rest with
          | [] => .error (.tooShort 2 .settings)
          | third :: rest => do
              let databases ← DatabaseSettings.keyedOfJson third
              if rest.isEmpty then return { debug, logLevel, databases }
              else .error (.tooLong (3 + rest.length))

def ofJson : Json → Except Mismatch Settings
  | .object members => ofMembers members
  | .array items => ofItems items
  | found => .error (.wrongType found .settings)

def toJson (settings : Settings) : Json :=
  .object [
    ("debug", .bool settings.debug),
    ("log_level", .text settings.logLevel),
    ("databases", .object (settings.databases.map fun entry => (entry.1, entry.2.toJson)))]

/-- The settings that `overlay` makes of the defaults. -/
def layered (format : Format) (overlay : Json) : Except Error Settings :=
  (ofJson (Json.merge (toJson {}) overlay)).mapError (Error.unfitSettings format)

def readDocument? : Format → String → Option Json
  | .toml, document => Toml.read? document
  | .json, document => Json.read? document

def ofDocument (format : Format) (document : String) : Except Error Settings := do
  let overlay ← Error.ifNone (.malformedSettings format) (readDocument? format document)
  layered format overlay

end Settings

end BoundSql
