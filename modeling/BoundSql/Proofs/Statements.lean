import BoundSql.Proofs.Conditions
import BoundSql.Query.Statement

/-! Compiled statements: the text of a select or a table creation, the pieces of an insert or
update, and the parts of which a whole statement is put together. -/

namespace BoundSql

namespace Query

def columnsText (query : Query) (everything : String) : String :=
  match query.columns with
  | .list (first :: rest) => ", ".intercalate (first :: rest)
  | .raw sql => sql
  | _ => everything

def selectText (query : Query) (everything : String) : String :=
  "SELECT " ++ query.columnsText everything ++ " FROM " ++ query.tableName ++
    String.join (query.joins.map query.joinSql)

def createText (query : Query) : String :=
  match query.columns with
  | .definitions entries =>
      "CREATE TABLE " ++ query.tableName ++ " (" ++
        ", ".intercalate (entries.map ColumnEntry.sql) ++ ")" ++ query.optionsSql
  | _ => ""

theorem outputColumns_eq {query : Query} {everything columns : String}
    (found : query.outputColumns everything = .ok columns) :
    columns = query.columnsText everything := by
  simp only [outputColumns] at found
  simp only [columnsText]
  match shape : query.columns with
  | .all => simpa [shape] using found.symm
  | .list [] => simpa [shape] using found.symm
  | .list (first :: rest) => simpa [shape] using found.symm
  | .raw sql => simpa [shape] using found.symm
  | .definitions entries => simp [shape] at found

theorem fragment_of_select {query : Query} {everything : String} {fragment : Fragment}
    (compiled : query.selectStatement everything = .ok fragment) :
    fragment = .ofText (query.selectText everything) := by
  obtain ⟨columns, found, selected⟩ := bind_eq_ok_iff.mp compiled
  rw [← Except.ok.inj selected, selectText, outputColumns_eq found]
  rfl

theorem fragment_of_insert {query : Query} {fragment : Fragment}
    (compiled : query.insertStatement = .ok fragment) :
    fragment =
      .text ("INSERT INTO " ++ query.tableName ++ " (" ++
        ", ".intercalate (query.fieldValues.map Prod.fst) ++ ") VALUES (") ::
      (Fragment.joined ", " (query.fieldValues.map fun field => field.2.fragment) ++
        [.text ")"]) := by
  obtain ⟨_, _, inserted⟩ := bind_eq_ok_iff.mp compiled
  rw [← Except.ok.inj inserted]
  rfl

theorem fragment_of_update {query : Query} {fragment : Fragment}
    (compiled : query.updateStatement = .ok fragment) :
    fragment =
      .text ("UPDATE " ++ query.tableName ++ " SET ") ::
      Fragment.joined ", "
        (query.fieldValues.map fun field => .text (field.1 ++ " = ") :: field.2.fragment) := by
  obtain ⟨_, _, updated⟩ := bind_eq_ok_iff.mp compiled
  rw [← Except.ok.inj updated]
  rfl

theorem fragment_of_create {query : Query} {fragment : Fragment}
    (compiled : query.createStatement = .ok fragment) : fragment = .ofText query.createText := by
  simp only [createStatement] at compiled
  simp only [createText]
  match shape : query.columns with
  | .definitions (first :: rest) =>
      simp only [shape, Except.ok.injEq] at compiled
      rw [← compiled]
      rfl
  | .definitions [] => simp [shape] at compiled
  | .all => simp [shape] at compiled
  | .list expressions => simp [shape] at compiled
  | .raw sql => simp [shape] at compiled

theorem parts_of_compile {query : Query} {fragment : Fragment}
    (compiled : query.compile = .ok fragment) :
    ∃ statement condition, query.statement = .ok statement ∧ query.whereClause = .ok condition ∧
      fragment = statement ++ condition ++ query.orderClause ++ query.limitClause ++
        query.groupClause := by
  obtain ⟨statement, first, remaining⟩ := bind_eq_ok_iff.mp compiled
  obtain ⟨condition, second, whole⟩ := bind_eq_ok_iff.mp remaining
  exact ⟨statement, condition, first, second, (Except.ok.inj whole).symm⟩

theorem condition_of_whereClause {query : Query} {predicate : Predicate} {condition : Fragment}
    (given : query.predicate = some predicate) (compiled : query.whereClause = .ok condition) :
    ∃ fragment, predicate.compile = .ok fragment ∧
      condition = if predicate.isEmpty then [] else .text " WHERE " :: fragment := by
  simp only [whereClause, given] at compiled
  obtain ⟨fragment, found, placed⟩ := bind_eq_ok_iff.mp compiled
  refine ⟨fragment, found, ?_⟩
  rw [← Except.ok.inj placed, Predicate.isBlank_of_compile found]

theorem compileLogged_of_ok {query : Query} {fragment : Fragment}
    (compiled : query.compile = .ok fragment) :
    query.compileLogged =
      ⟨[.compiling query.operation query.table,
        .compiled query.operation query.tableName fragment.values.length], .ok fragment⟩ := by
  rw [compileLogged, compiled]
  rfl

theorem compileLogged_of_error {query : Query} {error : Error}
    (failed : query.compile = .error error) :
    query.compileLogged = ⟨[.compiling query.operation query.table], .error error⟩ := by
  rw [compileLogged, failed]
  rfl

end Query

end BoundSql
