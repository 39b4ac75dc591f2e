import BoundSql.Json.Printer
import BoundSql.Text.Quoted

/-! How a settings document fails to fit: what was found, and what should have been there. -/

namespace BoundSql

inductive Format
  | toml
  | json
  deriving DecidableEq

def Format.name : Format → String
  | .toml => "TOML"
  | .json => "JSON"

inductive Expected
  | boolean
  | text
  | map
  | settings
  | databaseSettings
  deriving DecidableEq

def Expected.description : Expected → String
  | .boolean => "a boolean"
  | .text => "a string"
  | .map => "a map"
  | .settings => "struct Settings"
  | .databaseSettings => "struct DatabaseSettings"

inductive Mismatch
  | wrongType (found : Json) (expected : Expected)
  | missingField (name : String)
  | tooShort (length : Nat) (expected : Expected)
  | tooLong (length : Nat)

namespace Mismatch

def foundDescription : Json → String
  | .null => "null"
  | .bool value => "boolean `" ++ (if value then "true" else "false") ++ "`"
  | .int value => "integer `" ++ toString value ++ "`"
  | .double value => "floating point `" ++ value.text ++ "`"
  | .text value => "string " ++ Text.quoted value
  | .array _ => "sequence"
  | .object _ => "map"

def message : Mismatch → String
  | .wrongType found expected =>
      "invalid type: " ++ foundDescription found ++ ", expected " ++ expected.description
  | .missingField name => "missing field `" ++ name ++ "`"
  | .tooShort length expected =>
      "invalid length " ++ toString length ++ ", expected " ++ expected.description ++
        " with 3 elements"
  | .tooLong length => "invalid length " ++ toString length ++ ", expected fewer elements in array"

end Mismatch

end BoundSql
