import BoundSql.Dialect
import BoundSql.Log
import BoundSql.Schema

/-! Resolution of a column's type. A reference is followed to the identity column of its entity
until a column with a type of its own is reached; meeting an entity twice is a cycle. -/

namespace BoundSql

/-- The identity column of an entity and its descriptor, which a reference stands for. -/
def Schema.identityColumn (entity : String) (schema : Schema) :
    Except Error (String × Descriptor) :=
  match schema.identity? with
  | none => .error (.entityWithoutIdentity entity)
  | some identity =>
      match schema.descriptor? identity with
      | none => .error (.identityWithoutType identity entity)
      | some descriptor => .ok (identity, descriptor)

namespace Registry

def unvisited (visited : List String) : Registry → Nat
  | [] => 0
  | (name, _) :: rest =>
      if name ∈ visited then unvisited visited rest else unvisited visited rest + 1

theorem unvisited_le (visited : List String) (entity : String) (registry : Registry) :
    unvisited (visited ++ [entity]) registry ≤ unvisited visited registry := by
  induction registry with
  | nil => exact Nat.le_refl _
  | cons entry rest ih =>
      by_cases seen : entry.1 ∈ visited
      · simpa [unvisited, seen] using ih
      · by_cases last : entry.1 = entity
        · simp only [unvisited, List.mem_append, last, List.mem_singleton, or_true, if_true]
          split <;> omega
        · simpa [unvisited, seen, last] using ih

theorem unvisited_lt (visited : List String) (entity : String) (schema : Schema)
    (registry : Registry) (found : registry.schema? entity = some schema)
    (fresh : entity ∉ visited) :
    unvisited (visited ++ [entity]) registry < unvisited visited registry := by
  induction registry with
  | nil => simp [schema?] at found
  | cons entry rest ih =>
      obtain ⟨name, first⟩ := entry
      by_cases same : name = entity
      · subst same
        have rest_le := unvisited_le visited name rest
        simp only [unvisited, List.mem_append, List.mem_singleton, or_true, if_true, fresh,
          if_false]
        omega
      · have step := ih (by simpa [schema?, Keyed.find?, same] using found)
        by_cases seen : name ∈ visited
        · simpa [unvisited, seen] using step
        · simpa [unvisited, seen, same] using step

/-- Follows references from `descriptor` to a column with a type of its own. -/
def follow (registry : Registry) (visited : List String) (descriptor : Descriptor) :
    Logged (ColumnType × Descriptor) :=
  match descriptor.base with
  | .atomic columnType => pure (columnType, descriptor)
  | .reference entity =>
      if _seen : entity ∈ visited then
        Logged.ofExcept (.error (.referenceCycle (visited ++ [entity])))
      else
        match _found : registry.schema? entity with
        | none => Logged.ofExcept (.error (.unknownEntity entity))
        | some schema =>
            match schema.identityColumn entity with
            | .error error => Logged.ofExcept (.error error)
            | .ok (identity, next) =>
                (Logged.emit (.following entity identity)).andThen fun _ =>
                  follow registry (visited ++ [entity]) next.withoutKey
termination_by registry.unvisited visited
decreasing_by
  exact unvisited_lt visited entity schema registry _found _seen

end Registry

namespace Dialect

/-- A text between single quotes, with every quote inside doubled. -/
def literal (text : String) : String :=
  let doubled := text.toList.flatMap fun char => if char = '\'' then ['\'', '\''] else [char]
  String.ofList ('\'' :: (doubled ++ ['\'']))

def attributes (dialect : Dialect) (descriptor : Descriptor) : String :=
  (if descriptor.primary then " " ++ dialect.primaryKey else "") ++
  (if descriptor.auto then " " ++ dialect.autoIncrement else "") ++
  (match descriptor.nullable with
    | some nullable => " " ++ dialect.nullability nullable
    | none => "") ++
  (match descriptor.defaultText with
    | some text => " " ++ dialect.defaultKeyword ++ " " ++ literal text
    | none => "")

def definition (dialect : Dialect) (columnType : ColumnType) (descriptor : Descriptor) :
    Except Error String :=
  match dialect.typeSql columnType with
  | none => .error (.typeWithoutToken columnType dialect.name)
  | some token => .ok (token ++ dialect.attributes descriptor)

def resolve (dialect : Dialect) (registry : Registry) (descriptor : Descriptor) :
    Logged String := do
  let (columnType, final) ← registry.follow [] descriptor
  dialect.definition columnType final

def columnDefinitions (dialect : Dialect) (registry : Registry) :
    List (String × Descriptor) → Logged (List (String × String))
  | [] => pure []
  | (name, descriptor) :: rest => do
      let first ← dialect.resolve registry descriptor
      let others ← dialect.columnDefinitions registry rest
      return (name, first) :: others

def tableDefinitions (dialect : Dialect) (registry : Registry) (schema : Schema) :
    Logged (List (String × String)) :=
  dialect.columnDefinitions registry schema.columns

end Dialect

end BoundSql
