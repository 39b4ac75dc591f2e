import BoundSql.Clause
import BoundSql.Operation
import BoundSql.Predicate
import BoundSql.Settings

/-! Descriptions of statements, and the edits that build them up one clause at a time. -/

namespace BoundSql

/-- An entry of a column list; without a name the definition is the whole entry. -/
structure ColumnEntry where
  name : Option String
  definition : String
  deriving DecidableEq

def ColumnEntry.sql (entry : ColumnEntry) : String :=
  match entry.name with
  | some name => name ++ " " ++ entry.definition
  | none => entry.definition

inductive Columns
  | all
  | list (expressions : List String)
  | raw (sql : String)
  | definitions (entries : List ColumnEntry)
  deriving DecidableEq

def Columns.entries : Columns → List ColumnEntry
  | .definitions entries => entries
  | .all | .list _ | .raw _ => []

/-- A join with another table, whose name takes the query's prefix. -/
structure Join where
  kind : JoinKind
  table : String
  on : String
  deriving DecidableEq

structure Query where
  operation : Operation
  table : String
  tablePrefix : String := ""
  columns : Columns := .all
  fieldValues : List (String × Assigned) := []
  predicate : Option Predicate := none
  orderBy : List OrderBy := []
  limit : Option Limit := none
  groupBy : Option String := none
  joins : List Join := []
  tableOptions : Option String := none

namespace Query

inductive Edit
  | tablePrefix (text : String)
  | settings (database : DatabaseSettings)
  | columns (expressions : List String)
  | rawColumns (sql : String)
  | definitions (entries : List ColumnEntry)
  | define (entry : ColumnEntry)
  | assign (column : String) (assigned : Assigned)
  | filter (predicate : Predicate)
  | orderBy (order : OrderBy)
  | limit (limit : Limit)
  | groupBy (column : String)
  | leftJoin (table on : String)
  | tableOptions (text : String)

/-- Table options of the settings count for a create-table query that has none of its own. -/
def withSettings (query : Query) (database : DatabaseSettings) : Query :=
  { query with
    tablePrefix := database.tablePrefix
    tableOptions :=
      if query.operation = .createTable ∧ query.tableOptions = none then database.tableOptions
      else query.tableOptions }

def define (query : Query) (entry : ColumnEntry) : Query :=
  match query.columns with
  | .definitions entries => { query with columns := .definitions (entries ++ [entry]) }
  | _ => { query with columns := .definitions [entry] }

theorem define_eq (query : Query) (entry : ColumnEntry) : query.define entry =
    { query with columns := .definitions (query.columns.entries ++ [entry]) } := by
  rw [define]
  cases query.columns <;> rfl

def filter (query : Query) (predicate : Predicate) : Query :=
  match query.predicate with
  | some existing => { query with predicate := some (existing.combine .and predicate) }
  | none => { query with predicate := some predicate }

theorem filter_eq (query : Query) (predicate : Predicate) : query.filter predicate =
    { query with predicate := some (query.predicate.elim predicate fun existing =>
        existing.combine .and predicate) } := by
  rw [filter]
  cases query.predicate <;> rfl

def edit (query : Query) : Edit → Query
  | .tablePrefix text => { query with tablePrefix := text }
  | .settings database => query.withSettings database
  | .columns expressions => { query with columns := .list expressions }
  | .rawColumns sql => { query with columns := .raw sql }
  | .definitions entries => { query with columns := .definitions entries }
  | .define entry => query.define entry
  | .assign column assigned =>
      { query with fieldValues := query.fieldValues ++ [(column, assigned)] }
  | .filter predicate => query.filter predicate
  | .orderBy order => { query with orderBy := query.orderBy ++ [order] }
  | .limit limit => { query with limit := some limit }
  | .groupBy column => { query with groupBy := some column }
  | .leftJoin table on => { query with joins := query.joins ++ [⟨.left, table, on⟩] }
  | .tableOptions text => { query with tableOptions := some text }

def edits (query : Query) (steps : List Edit) : Query := steps.foldl edit query

def tableName (query : Query) : String := query.tablePrefix ++ query.table

end Query

end BoundSql
