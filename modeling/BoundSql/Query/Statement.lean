import BoundSql.Log
import BoundSql.Predicate.Sql
import BoundSql.Query

/-! Queries as statements: the statement of the operation, then the condition, the sort order, the
limit and the grouping, each where the query has one. -/

namespace BoundSql

namespace Assigned

def fragment : Assigned → Fragment
  | .bound value => [.slot value]
  | .raw sql => [.text sql]

end Assigned

namespace Query

def outputColumns (query : Query) (everything : String) : Except Error String :=
  match query.columns with
  | .all => .ok everything
  | .list [] => .ok everything
  | .list expressions => .ok (", ".intercalate expressions)
  | .raw sql => .ok sql
  | .definitions _ => .error (.definitionsAsColumns query.operation query.table)

def joinSql (query : Query) (join : Join) : String :=
  s!" {join.kind.sql} {query.tablePrefix}{join.table} ON {join.on}"

def selectStatement (query : Query) (everything : String) : Except Error Fragment := do
  let columns ← query.outputColumns everything
  let joins := String.join (query.joins.map query.joinSql)
  return .ofText (s!"SELECT {columns} FROM {query.tableName}" ++ joins)

def requireValues (query : Query) : Except Error Unit :=
  if query.fieldValues = [] then .error (.noFieldValues query.operation query.table) else .ok ()

def insertStatement (query : Query) : Except Error Fragment := do
  query.requireValues
  let names := ", ".intercalate (query.fieldValues.map Prod.fst)
  let slots := Fragment.joined ", " (query.fieldValues.map fun field => field.2.fragment)
  return .text s!"INSERT INTO {query.tableName} ({names}) VALUES (" :: (slots ++ [.text ")"])

def updateStatement (query : Query) : Except Error Fragment := do
  query.requireValues
  let assignments := Fragment.joined ", "
    (query.fieldValues.map fun field => .text (field.1 ++ " = ") :: field.2.fragment)
  return .text s!"UPDATE {query.tableName} SET " :: assignments

/-- Table options without the blanks around them, or nothing if only blanks are left. -/
def optionsSql (query : Query) : String :=
  match Text.trim (query.tableOptions.getD "").toList with
  | [] => ""
  | options => " " ++ String.ofList options

def createStatement (query : Query) : Except Error Fragment :=
  match query.columns with
  | .definitions (first :: rest) =>
      let entries := ", ".intercalate ((first :: rest).map ColumnEntry.sql)
      .ok (.ofText (s!"CREATE TABLE {query.tableName} ({entries})" ++ query.optionsSql))
  | _ => .error (.noColumnDefinitions query.table)

def statement (query : Query) : Except Error Fragment :=
  match query.operation with
  | .select => query.selectStatement "*"
  | .count => query.selectStatement "COUNT(*)"
  | .insert => query.insertStatement
  | .update => query.updateStatement
  | .delete => .ok (.ofText s!"DELETE FROM {query.tableName}")
  | .createTable => query.createStatement
  | .dropTable => .ok (.ofText s!"DROP TABLE IF EXISTS {query.tableName}")

def whereClause (query : Query) : Except Error Fragment :=
  match query.predicate with
  | none => .ok []
  | some predicate => do
      let condition ← predicate.compile
      return if condition.isBlank then [] else .text " WHERE " :: condition

def orderClause (query : Query) : Fragment :=
  if query.orderBy = [] then [] else .ofText (" ORDER BY " ++ OrderBy.listSql query.orderBy)

def limitClause (query : Query) : Fragment :=
  match query.limit with
  | none => []
  | some limit => .ofText (" LIMIT " ++ limit.sql)

def groupClause (query : Query) : Fragment :=
  match query.groupBy with
  | none => []
  | some column => .ofText (" GROUP BY " ++ column)

def compile (query : Query) : Except Error Fragment := do
  let statement ← query.statement
  let condition ← query.whereClause
  return statement ++ condition ++ query.orderClause ++ query.limitClause ++ query.groupClause

/-- Compilation as the log sees it: the start under the table's bare name, and on success an event
with the whole name and the number of values. -/
def compileLogged (query : Query) : Logged Fragment := do
  Logged.emit (.compiling query.operation query.table)
  let fragment ← query.compile
  Logged.emit (.compiled query.operation query.tableName fragment.values.length)
  return fragment

end Query

end BoundSql
