import BoundSql.Error

/-! What an operation tells the log, and operations that keep their log records beside their
outcome, whether they succeed or fail. -/

namespace BoundSql

inductive Record
  | compiling (operation : Operation) (table : String)
  | compiled (operation : Operation) (table : String) (valueCount : Nat)
  | following (entity identity : String)
  | readingFile (path : String)
  | overriding (name : String)
  deriving DecidableEq

inductive Level
  | debug
  | trace
  deriving DecidableEq

inductive FieldContent
  | text (content : String)
  | count (content : Nat)
  deriving DecidableEq

namespace Record

def level : Record → Level
  | .following _ _ => .trace
  | _ => .debug

/-- The message of an event; the start of a compilation opens a span and has none. -/
def message? : Record → Option String
  | .compiling _ _ => none
  | .compiled _ _ _ => some "compiled query"
  | .following _ _ => some "following column type reference"
  | .readingFile _ => some "reading settings file"
  | .overriding _ => some "applying settings override from environment"

def fields : Record → List (String × FieldContent)
  | .compiling operation table => [("operation", .text operation.tag), ("table", .text table)]
  | .compiled operation table valueCount =>
      [("operation", .text operation.tag), ("table", .text table), ("values", .count valueCount)]
  | .following entity identity => [("entity", .text entity), ("identity", .text identity)]
  | .readingFile path => [("path", .text path)]
  | .overriding name => [("variable", .text name)]

end Record

structure Logged (α : Type) where
  records : List Record
  outcome : Except Error α

namespace Logged

variable {α β : Type}

def ofExcept (outcome : Except Error α) : Logged α := ⟨[], outcome⟩

def emit (record : Record) : Logged Unit := ⟨[record], .ok ()⟩

def andThen (first : Logged α) (next : α → Logged β) : Logged β :=
  match first.outcome with
  | .error error => ⟨first.records, .error error⟩
  | .ok result => ⟨first.records ++ (next result).records, (next result).outcome⟩

instance : Monad Logged where
  pure result := ⟨[], .ok result⟩
  bind := andThen

instance : MonadLift (Except Error) Logged where
  monadLift := ofExcept

@[simp] theorem outcome_pure (result : α) : (pure result : Logged α).outcome = .ok result := rfl

@[simp] theorem records_pure (result : α) : (pure result : Logged α).records = [] := rfl

theorem outcome_bind (first : Logged α) (next : α → Logged β) :
    (first >>= next).outcome = first.outcome >>= fun result => (next result).outcome := by
  obtain ⟨records, outcome⟩ := first
  cases outcome <;> rfl

theorem bind_of_ok (records : List Record) (result : α) (next : α → Logged β) :
    (⟨records, .ok result⟩ : Logged α) >>= next =
      ⟨records ++ (next result).records, (next result).outcome⟩ := rfl

theorem bind_of_error (records : List Record) (error : Error) (next : α → Logged β) :
    (⟨records, .error error⟩ : Logged α) >>= next = ⟨records, .error error⟩ := rfl

end Logged

end BoundSql
