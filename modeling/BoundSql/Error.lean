import BoundSql.Column
import BoundSql.Folder
import BoundSql.Operation
import BoundSql.Operator
import BoundSql.Settings.Mismatch

/-! What can go wrong, by cause. Each cause has a category, and the message is the heading of the
category followed by the detail of the cause. -/

namespace BoundSql

inductive Category
  | unknownType
  | resolution
  | unsupportedOperation
  | malformedPredicate
  | malformedQuery
  | configuration
  | serialization
  | io
  deriving DecidableEq

namespace Category

def heading : Category → String
  | .unknownType => "Unknown column type"
  | .resolution => "Type resolution failed"
  | .unsupportedOperation => "Unsupported operation"
  | .malformedPredicate => "Malformed predicate"
  | .malformedQuery => "Malformed query"
  | .configuration => "Configuration error"
  | .serialization => "Serialization error"
  | .io => "IO error"

def describe (category : Category) (detail : String) : String := category.heading ++ ": " ++ detail

/-- Whether the shape of what is compiled is at fault, not settings, documents or files. -/
def isCompile : Category → Bool
  | .unknownType => true
  | .resolution => true
  | .unsupportedOperation => true
  | .malformedPredicate => true
  | .malformedQuery => true
  | .configuration => false
  | .serialization => false
  | .io => false

end Category

inductive Error
  | unknownTypeTag (tag : String)
  | typeWithoutToken (columnType : ColumnType) (dialect : String)
  | referenceCycle (entities : List String)
  | unknownEntity (entity : String)
  | entityWithoutIdentity (entity : String)
  | identityWithoutType (identity entity : String)
  | unknownOperation (tag : String)
  | unsupportedJoin (tag : String)
  | unknownOperator (text : String)
  | emptyColumn
  | emptyList (column : String)
  | listForOneValue (operator : Operator) (column : String)
  | keyWithoutColumn (key : String)
  | connectiveAsColumn (column : String)
  | notScalar (found : Json)
  | treeNotObject (found : Json)
  | groupNotObject (key : String) (found : Json)
  | unknownDirection (text : String)
  | definitionsAsColumns (operation : Operation) (table : String)
  | noFieldValues (operation : Operation) (table : String)
  | noColumnDefinitions (table : String)
  | unknownEngine (engine : String)
  | malformedSettings (format : Format)
  | unfitSettings (format : Format) (mismatch : Mismatch)
  | unsupportedFile (path : String)
  | malformedDocument
  | registryNotObject
  | schemaNotObject (found : Json)
  | identityNotText (found : Json)
  | noColumnsObject
  | descriptorShape
  | descriptorBase
  | insideDocument (detail : String)
  | unreadableFile (cause : FileError)

namespace Error

def category : Error → Category
  | .unknownTypeTag _ => .unknownType
  | .typeWithoutToken _ _ => .unknownType
  | .referenceCycle _ => .resolution
  | .unknownEntity _ => .resolution
  | .entityWithoutIdentity _ => .resolution
  | .identityWithoutType _ _ => .resolution
  | .unknownOperation _ => .unsupportedOperation
  | .unsupportedJoin _ => .unsupportedOperation
  | .unknownOperator _ => .malformedPredicate
  | .emptyColumn => .malformedPredicate
  | .emptyList _ => .malformedPredicate
  | .listForOneValue _ _ => .malformedPredicate
  | .keyWithoutColumn _ => .malformedPredicate
  | .connectiveAsColumn _ => .malformedPredicate
  | .notScalar _ => .malformedPredicate
  | .treeNotObject _ => .malformedPredicate
  | .groupNotObject _ _ => .malformedPredicate
  | .unknownDirection _ => .malformedQuery
  | .definitionsAsColumns _ _ => .malformedQuery
  | .noFieldValues _ _ => .malformedQuery
  | .noColumnDefinitions _ => .malformedQuery
  | .unknownEngine _ => .configuration
  | .malformedSettings _ => .configuration
  | .unfitSettings _ _ => .configuration
  | .unsupportedFile _ => .configuration
  | .malformedDocument => .serialization
  | .registryNotObject => .serialization
  | .schemaNotObject _ => .serialization
  | .identityNotText _ => .serialization
  | .noColumnsObject => .serialization
  | .descriptorShape => .serialization
  | .descriptorBase => .serialization
  | .insideDocument _ => .serialization
  | .unreadableFile _ => .io

def detail : Error → String
  | .unknownTypeTag tag => tag
  | .typeWithoutToken columnType dialect => s!"{columnType.tag} has no {dialect} type"
  | .referenceCycle entities => "reference cycle: " ++ " -> ".intercalate entities
  | .unknownEntity entity => s!"unknown entity '{entity}'"
  | .entityWithoutIdentity entity => s!"entity '{entity}' has no identity column"
  | .identityWithoutType identity entity =>
      s!"identity column '{identity}' of entity '{entity}' has no type"
  | .unknownOperation tag => tag
  | .unsupportedJoin tag => s!"{tag} join"
  | .unknownOperator text => s!"unknown operator '{text}'"
  | .emptyColumn => "condition has an empty column"
  | .emptyList column => s!"empty value list for '{column}'"
  | .listForOneValue operator column =>
      s!"operator {operator.sql} on '{column}' does not accept a list"
  | .keyWithoutColumn key => s!"predicate key '{key}' names no column"
  | .connectiveAsColumn column => s!"'{column}' is a connective, not a column"
  | .notScalar found => s!"expected a scalar value, got {found.render}"
  | .treeNotObject found => s!"predicate tree must be an object, got {found.render}"
  | .groupNotObject key found =>
      s!"'{key}' must hold a nested predicate object, got {found.render}"
  | .unknownDirection text => s!"unknown sort direction '{text}'"
  | .definitionsAsColumns operation table =>
      s!"{operation.tag} on '{table}' cannot take column definitions"
  | .noFieldValues operation table => s!"{operation.tag} on '{table}' has no field values"
  | .noColumnDefinitions table => s!"create_table on '{table}' needs column definitions"
  | .unknownEngine engine => s!"No SQL dialect available for engine '{engine}'"
  | .malformedSettings format => s!"Invalid {format.name} settings"
  | .unfitSettings format mismatch =>
      s!"{format.name} settings do not match the schema: {mismatch.message}"
  | .unsupportedFile path => s!"Unsupported settings file '{path}': expected .toml or .json"
  | .malformedDocument => "malformed JSON"
  | .registryNotObject => "schema registry must be a JSON object"
  | .schemaNotObject found => s!"entity schema must be an object, got {found.render}"
  | .identityNotText found => s!"'identity' must be a string, got {found.render}"
  | .noColumnsObject => "entity schema needs a 'columns' object"
  | .descriptorShape => "data did not match any variant of untagged enum DescriptorRepr"
  | .descriptorBase => "column descriptor needs exactly one of 'type' or 'references'"
  | .insideDocument text => text
  | .unreadableFile cause => cause.message

def message (error : Error) : String := error.category.describe error.detail

def isCompile (error : Error) : Bool := error.category.isCompile

def ifNone {α : Type} (error : Error) (found : Option α) : Except Error α :=
  match found with
  | some result => .ok result
  | none => .error error

theorem ifNone_eq_ok_iff {α : Type} {error : Error} {found : Option α} {result : α} :
    ifNone error found = .ok result ↔ found = some result := by
  cases found <;> simp [ifNone]

theorem ifNone_eq_error_iff {α : Type} {error cause : Error} {found : Option α} :
    ifNone error found = .error cause ↔ found = none ∧ error = cause := by
  cases found <;> simp [ifNone]

end Error

theorem bind_eq_ok_iff {ε α β : Type} {first : Except ε α} {next : α → Except ε β} {result : β} :
    first >>= next = .ok result ↔ ∃ middle, first = .ok middle ∧ next middle = .ok result := by
  cases first <;> simp [bind, Except.bind]

theorem bind_eq_error_iff {ε α β : Type} {first : Except ε α} {next : α → Except ε β} {error : ε} :
    first >>= next = .error error ↔
      first = .error error ∨ ∃ middle, first = .ok middle ∧ next middle = .error error := by
  cases first <;> simp [bind, Except.bind]

theorem map_eq_ok_iff {ε α β : Type} {outcome : Except ε α} {change : α → β} {result : β} :
    change <$> outcome = .ok result ↔ ∃ value, outcome = .ok value ∧ change value = result := by
  cases outcome <;> simp [Functor.map, Except.map]

theorem map_eq_error_iff {ε α β : Type} {outcome : Except ε α} {change : α → β} {error : ε} :
    change <$> outcome = .error error ↔ outcome = .error error := by
  cases outcome <;> simp [Functor.map, Except.map]

theorem mapError_eq_ok_iff {ε δ α : Type} {outcome : Except ε α} {change : ε → δ} {value : α} :
    outcome.mapError change = .ok value ↔ outcome = .ok value := by
  cases outcome with
  | error _ => exact ⟨nofun, nofun⟩
  | ok _ =>
      constructor
      all_goals
        rintro ⟨⟩
        rfl

theorem both_eq_ok_iff {ε α β γ : Type} {first : Except ε α} {second : Except ε β}
    {together : α → β → γ} {result : γ} :
    (do return together (← first) (← second)) = Except.ok result ↔
      ∃ left right, first = .ok left ∧ second = .ok right ∧ together left right = result := by
  cases first <;> cases second <;> simp [bind, Except.bind, pure, Except.pure]

theorem both_eq_error_iff {ε α β γ : Type} {first : Except ε α} {second : Except ε β}
    {together : α → β → γ} {error : ε} :
    (do return together (← first) (← second)) = Except.error error ↔
      first = .error error ∨ (∃ result, first = .ok result) ∧ second = .error error := by
  cases first <;> cases second <;> simp [bind, Except.bind, pure, Except.pure]

end BoundSql
