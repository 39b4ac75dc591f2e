import BoundSql.Json.Reader
import BoundSql.Schema
import BoundSql.Tag
import BoundSql.Text.Position

/-! JSON documents of column descriptors, entity schemas and registries. -/

namespace BoundSql

namespace Json

def text? : Json → Option String
  | .text content => some content
  | _ => none

def bool? : Json → Option Bool
  | .bool content => some content
  | _ => none

end Json

namespace Descriptor

/-- What `content?` finds in a member; null stands for nothing, as a missing member does. -/
def optionalContent {α : Type} (content? : Json → Option α) :
    Option Json → Except Error (Option α)
  | none => .ok none
  | some .null => .ok none
  | some json => some <$> Error.ifNone .descriptorShape (content? json)

/-- A flag is off when it is missing and may not be null. -/
def flagContent : Option Json → Except Error Bool
  | none => .ok false
  | some json => Error.ifNone .descriptorShape json.bool?

def baseType : Option String → Option String → Except Error BaseType
  | some tag, none => .atomic <$> ColumnType.read tag
  | none, some entity => .ok (.reference entity)
  | _, _ => .error .descriptorBase

def ofFound (found : String → Option Json) : Except Error Descriptor := do
  let tag ← optionalContent Json.text? (found "type")
  let entity ← optionalContent Json.text? (found "references")
  let primary ← flagContent (found "primary")
  let auto ← flagContent (found "auto")
  let nullable ← optionalContent Json.bool? (found "null")
  let defaultText ← optionalContent Json.text? (found "default")
  let base ← baseType tag entity
  return { base, primary, auto, nullable, defaultText }

def knownMembers : List String := ["type", "references", "primary", "auto", "null", "default"]

def repeatsMember (members : List (String × Json)) : Bool :=
  knownMembers.any fun name => 1 < (members.filter fun entry => entry.1 = name).length

/-- A known member may not be repeated; any other member is ignored. -/
def ofMembers (members : List (String × Json)) : Except Error Descriptor :=
  if repeatsMember members then .error .descriptorShape
  else ofFound fun name => Keyed.find? name members

def ofJson : Json → Except Error Descriptor
  | .text tag => do
      let columnType ← ColumnType.read tag
      return { base := .atomic columnType }
  | .object members => ofMembers members
  | _ => .error .descriptorShape

/-- An error as a document of its own reports it: its whole message is the detail, and a position
that closes the message counts as the position in the document. -/
def reported : Error → Error
  | .descriptorShape => .descriptorShape
  | error => .insideDocument (Text.repositioned error.message)

/-- A descriptor that is a document of its own, as it stands: there a member may be repeated. -/
def ofRaw (raw : Json) : Except Error Descriptor := (ofJson raw).mapError reported

def ofDocument (document : String) : Except Error Descriptor := do
  let raw ← Error.ifNone .malformedDocument (Json.readRaw? document)
  ofRaw raw

end Descriptor

namespace Schema

def identityMember (members : List (String × Json)) : Except Error (Option String) :=
  match Keyed.find? "identity" members with
  | none => .ok none
  | some .null => .ok none
  | some (.text name) => .ok (some name)
  | some found => .error (.identityNotText found)

def columnMembers (members : List (String × Json)) : Except Error (List (String × Json)) :=
  match Keyed.find? "columns" members with
  | some (.object columns) => .ok columns
  | _ => .error .noColumnsObject

def columnsOfMembers : List (String × Json) → Except Error (List (String × Descriptor))
  | [] => .ok []
  | (name, json) :: rest => do
      let descriptor ← Descriptor.ofJson json
      let others ← columnsOfMembers rest
      return (name, descriptor) :: others

def ofJson : Json → Except Error Schema
  | .object members => do
      let explicitIdentity ← identityMember members
      let columns ← columnMembers members
      let columns ← columnsOfMembers columns
      return { explicitIdentity, columns }
  | found => .error (.schemaNotObject found)

def ofDocument (document : String) : Except Error Schema := do
  let json ← Error.ifNone .malformedDocument (Json.read? document)
  ofJson json

end Schema

namespace Registry

def registerMembers (registry : Registry) : List (String × Json) → Except Error Registry
  | [] => .ok registry
  | (entity, json) :: rest => do
      let schema ← Schema.ofJson json
      registerMembers (registry.register entity schema) rest

def ofDocument (document : String) : Except Error Registry := do
  let json ← Error.ifNone .malformedDocument (Json.read? document)
  match json with
  | .object members => registerMembers [] members
  | _ => .error .registryNotObject

end Registry

end BoundSql
