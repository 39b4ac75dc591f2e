import BoundSql.Proofs.FirstFault
import BoundSql.Proofs.StatementClauses

/-! The clauses that may follow a statement: condition, sort order, limit and grouping, in this
order. They follow the statement of every operation, and neither change it nor make it malformed. -/

namespace BoundSql

inductive Trailing
  | condition
  | order
  | limit
  | grouping
  deriving DecidableEq

namespace Trailing

def inOrder : List Trailing := [.condition, .order, .limit, .grouping]

def keyword : Trailing → String
  | .condition => "WHERE"
  | .order => "ORDER BY"
  | .limit => "LIMIT"
  | .grouping => "GROUP BY"

def opening : Trailing → String
  | .condition => "WHERE"
  | .order => "ORDER"
  | .limit => "LIMIT"
  | .grouping => "GROUP"

def read (sql : String) : List String :=
  ((Clause.cut (Token.ofText sql)).2.map Clause.keyword).filter
    fun word => word ∈ inOrder.map opening

end Trailing

theorem join_map_filter {α : Type} (holds : α → Bool) (text : α → String) (items : List α) :
    String.join ((items.filter holds).map text) =
      String.join (items.map fun item => if holds item then text item else "") := by
  induction items with
  | nil => rfl
  | cons first rest ih =>
      cases here : holds first <;> simp [here, String.join_cons, ih]

namespace Query

def bare (query : Query) : Query :=
  { query with predicate := none, orderBy := [], limit := none, groupBy := none }

def carries (query : Query) : Trailing → Bool
  | .condition => query.predicate.any fun predicate => !predicate.isEmpty
  | .order => query.orderBy ≠ []
  | .limit => query.limit.isSome
  | .grouping => query.groupBy.isSome

def trailing (query : Query) : List Trailing := Trailing.inOrder.filter query.carries

def condition (query : Query) : Except Error Fragment :=
  match query.predicate with
  | some predicate => predicate.compile
  | none => .ok []

def body (query : Query) (condition : Fragment) : Trailing → String
  | .condition => condition.sql
  | .order => OrderBy.listSql query.orderBy
  | .limit => (query.limit.map Limit.sql).getD ""
  | .grouping => query.groupBy.getD ""

def clauseText (query : Query) (condition : Fragment) (clause : Trailing) : String :=
  " " ++ clause.keyword ++ " " ++ query.body condition clause

variable {query : Query}

theorem compile_bare (query : Query) : query.bare.compile = query.statement := by
  have statement : query.bare.statement = query.statement := rfl
  rw [compile, statement]
  cases query.statement with
  | error error => rfl
  | ok fragment =>
      have whole : fragment ++ [] ++ [] ++ [] ++ [] = fragment := by simp
      exact congrArg Except.ok whole

theorem compile_ok_iff {fragment : Fragment} : query.compile = .ok fragment ↔
    ∃ statement condition, query.statement = .ok statement ∧ query.whereClause = .ok condition ∧
      fragment = statement ++ condition ++ query.orderClause ++ query.limitClause ++
        query.groupClause := by
  constructor
  · exact parts_of_compile
  · rintro ⟨statement, condition, stated, conditioned, rfl⟩
    rw [compile, stated, conditioned]
    rfl

theorem whereClause_ok_iff {clause : Fragment} : query.whereClause = .ok clause ↔
    ∃ condition, query.condition = .ok condition ∧
      clause = if query.carries .condition then .text " WHERE " :: condition else [] := by
  cases given : query.predicate with
  | none => simp [whereClause, condition, carries, given, eq_comm]
  | some predicate =>
      simp only [whereClause, condition, carries, given, Option.any_some]
      constructor
      · intro placed
        obtain ⟨condition, compiled, rest⟩ := bind_eq_ok_iff.mp placed
        refine ⟨condition, compiled, ?_⟩
        rw [← Except.ok.inj rest, Predicate.isBlank_of_compile compiled]
        cases predicate.isEmpty <;> rfl
      · rintro ⟨condition, compiled, rfl⟩
        rw [compiled, ← Predicate.isBlank_of_compile compiled]
        cases blank : condition.isBlank <;> simp [bind, Except.bind, pure, Except.pure, blank]

theorem sql_clauses (query : Query) (condition : Fragment) :
    Fragment.sql ((if query.carries .condition then .text " WHERE " :: condition else []) ++
        query.orderClause ++ query.limitClause ++ query.groupClause) =
      String.join (query.trailing.map (query.clauseText condition)) := by
  have order : query.orderClause.sql =
      if query.carries .order then query.clauseText condition .order else "" := by
    by_cases unordered : query.orderBy = [] <;>
      simp [orderClause, carries, clauseText, body, unordered, Fragment.ofText, Trailing.keyword]
  have limit : query.limitClause.sql =
      if query.carries .limit then query.clauseText condition .limit else "" := by
    cases given : query.limit <;>
      simp [limitClause, carries, clauseText, body, given, Fragment.ofText, Trailing.keyword]
  have group : query.groupClause.sql =
      if query.carries .grouping then query.clauseText condition .grouping else "" := by
    cases given : query.groupBy <;>
      simp [groupClause, carries, clauseText, body, given, Fragment.ofText, Trailing.keyword]
  have filter :
      Fragment.sql (if query.carries .condition then .text " WHERE " :: condition else []) =
        if query.carries .condition then query.clauseText condition .condition else "" := by
    cases query.carries .condition <;> simp [clauseText, body, Trailing.keyword]
  rw [trailing, join_map_filter, Fragment.sql_append, Fragment.sql_append, Fragment.sql_append,
    filter, order, limit, group]
  simp [Trailing.inOrder, String.append_assoc]

theorem values_clauses (query : Query) :
    Fragment.values (query.orderClause ++ query.limitClause ++ query.groupClause) = [] := by
  have order : query.orderClause.values = [] := by
    unfold orderClause
    split <;> rfl
  have limit : query.limitClause.values = [] := by
    unfold limitClause
    split <;> rfl
  have group : query.groupClause.values = [] := by
    unfold groupClause
    split <;> rfl
  simp [order, limit, group]

theorem values_placed {condition : Fragment} (compiled : query.condition = .ok condition) :
    Fragment.values (if query.carries .condition then .text " WHERE " :: condition else []) =
      condition.values := by
  cases given : query.predicate with
  | none =>
      simp only [Query.condition, given, Except.ok.injEq] at compiled
      simp [carries, given, ← compiled]
  | some predicate =>
      simp only [Query.condition, given] at compiled
      cases empty : predicate.isEmpty with
      | false => simp [carries, given, empty]
      | true =>
          rw [Predicate.compile_of_isEmpty empty, Except.ok.injEq] at compiled
          simp [carries, given, empty, ← compiled]

theorem keywords_trailing (query : Query) :
    (query.whereClauses ++ (query.orderClauses ++ query.limitClauses ++ query.groupClauses)).map
      Clause.keyword = query.trailing.map Trailing.opening := by
  have condition : query.whereClauses.map Clause.keyword =
      if query.carries .condition then ["WHERE"] else [] := by
    cases given : query.predicate with
    | none => simp [whereClauses, carries, given]
    | some predicate =>
        cases empty : predicate.isEmpty <;> simp [whereClauses, carries, given, empty]
  have order : query.orderClauses.map Clause.keyword =
      if query.carries .order then ["ORDER"] else [] := by
    by_cases unordered : query.orderBy = [] <;> simp [orderClauses, carries, unordered]
  have limit : query.limitClauses.map Clause.keyword =
      if query.carries .limit then ["LIMIT"] else [] := by
    cases given : query.limit <;> simp [limitClauses, carries, given]
  have group : query.groupClauses.map Clause.keyword =
      if query.carries .grouping then ["GROUP"] else [] := by
    cases given : query.groupBy <;> simp [groupClauses, carries, given]
  simp only [List.map_append, condition, order, limit, group, trailing, Trailing.inOrder,
    List.filter_cons, List.filter_nil]
  cases query.carries .condition <;> cases query.carries .order <;> cases query.carries .limit <;>
    cases query.carries .grouping <;> rfl

theorem read_of_compile {fragment : Fragment} (plain : query.Plain)
    (compiled : query.compile = .ok fragment) :
    Trailing.read fragment.sql = query.trailing.map Trailing.opening := by
  have text : fragment.sql = query.written Value.mark := by
    rw [Fragment.sql_eq_written, (compile_renders compiled).written_eq]
  have cut := congrArg Prod.snd (Clause.cut_flatMap (among_clauses plain))
  have leading : (query.operationClauses.map Clause.keyword).filter
      (fun word => word ∈ Trailing.inOrder.map Trailing.opening) = [] := by
    have apart : ∀ word ∈ operationKeywords, word ∉ Trailing.inOrder.map Trailing.opening := by
      decide
    rw [List.filter_eq_nil_iff]
    intro word member
    obtain ⟨clause, present, rfl⟩ := List.mem_map.mp member
    simpa using apart _ (among_operation plain clause present).1
  have following : (query.trailing.map Trailing.opening).filter
      (fun word => word ∈ Trailing.inOrder.map Trailing.opening) =
        query.trailing.map Trailing.opening := by
    rw [List.filter_eq_self]
    intro word member
    obtain ⟨clause, present, rfl⟩ := List.mem_map.mp member
    exact decide_eq_true (List.mem_map_of_mem (List.mem_of_mem_filter present))
  rw [Trailing.read, text, ofText_written plain, cut, clauses, List.append_assoc, List.map_append,
    keywords_trailing, List.filter_append, leading, following, List.nil_append]

/-- What follows a statement are the trailing clauses that the query carries, in their one order and
whatever the operation is. The statement before them is what the query compiles to without them,
and they never make a query malformed that would not be so without them. -/
theorem compile_appends_clauses (query : Query) :
    (∀ fragment, query.compile = .ok fragment →
      ∃ statement condition, query.bare.compile = .ok statement ∧
        query.condition = .ok condition ∧
        fragment.sql = statement.sql ++
          String.join (query.trailing.map (query.clauseText condition)) ∧
        fragment.values = statement.values ++ condition.values) ∧
    ((∃ fragment, query.compile = .ok fragment) ↔
      (∃ statement, query.bare.compile = .ok statement) ∧
        ∃ condition, query.condition = .ok condition) ∧
    (∀ error, error.category = .malformedQuery →
      (query.compile = .error error ↔ query.bare.compile = .error error)) ∧
    ∀ fragment, query.Plain → query.compile = .ok fragment →
      Trailing.read fragment.sql = query.trailing.map Trailing.opening := by
  refine ⟨?_, ?_, ?_, fun fragment => read_of_compile⟩
  · intro fragment compiled
    obtain ⟨statement, clause, stated, placed, rfl⟩ := compile_ok_iff.mp compiled
    obtain ⟨condition, conditioned, rfl⟩ := whereClause_ok_iff.mp placed
    refine ⟨statement, condition, (compile_bare query).trans stated, conditioned, ?_, ?_⟩
    · rw [← sql_clauses]
      simp only [List.append_assoc, Fragment.sql_append]
    · have unbound := query.values_clauses
      simp only [List.append_assoc, Fragment.values_append] at unbound ⊢
      rw [unbound, values_placed conditioned, List.append_nil]
  · rw [compile_bare]
    constructor
    · rintro ⟨fragment, compiled⟩
      obtain ⟨statement, clause, stated, placed, rfl⟩ := compile_ok_iff.mp compiled
      obtain ⟨condition, conditioned, rfl⟩ := whereClause_ok_iff.mp placed
      exact ⟨⟨statement, stated⟩, condition, conditioned⟩
    · rintro ⟨⟨statement, stated⟩, condition, conditioned⟩
      exact ⟨_, compile_ok_iff.mpr ⟨statement, _, stated,
        whereClause_ok_iff.mpr ⟨condition, conditioned, rfl⟩, rfl⟩⟩
  · intro error category
    rw [compile_bare, statement_error_iff, compile_error_iff]
    constructor
    · rintro (misfit | ⟨_, first⟩)
      · exact misfit
      · simp [first.category] at category
    · exact .inl

def lateVisit : Query where
  operation := .insert
  table := "visits"
  fieldValues := [("day", .bound (.int 1))]
  predicate := some (.any [.all [], .eq "id" (.int 7)])
  groupBy := some "day"

theorem compile_appends_clauses_lateVisit :
    ∃ fragment, lateVisit.compile = .ok fragment ∧ lateVisit.Plain ∧
      Trailing.read fragment.sql = ["WHERE", "GROUP"] ∧
      ∃ statement condition, lateVisit.bare.compile = .ok statement ∧
        lateVisit.condition = .ok condition ∧
        fragment.sql = statement.sql ++ String.join
          ([.condition, .grouping].map (lateVisit.clauseText condition)) ∧
        fragment.values = statement.values ++ condition.values := by
  have compiled : lateVisit.compile = .ok
      [.text "INSERT INTO visits (day) VALUES (", .slot (.int 1), .text ")", .text " WHERE ",
        .text "id = ", .slot (.int 7), .text " GROUP BY day"] := rfl
  have plain : lateVisit.Plain := {
    operation := by decide
    table := by decide
    columns := by decide
    listed := by decide
    fields := by decide
    raws := by decide
    conditions := by decide
    joinTables := by decide
    joins := by simp [lateVisit]
    orderBy := by decide
    groupBy := by decide }
  have appended := compile_appends_clauses lateVisit
  exact ⟨_, compiled, plain, appended.2.2.2 _ plain compiled, appended.1 _ compiled⟩

def cityVisits : Query where
  operation := .select
  table := "visits"
  columns := .list ["city"]
  orderBy := [⟨"city", .ascending⟩]
  limit := some (.count 5)
  groupBy := some "city"

def visitTable : Query where
  operation := .createTable
  table := "visits"
  columns := .definitions [⟨some "day", "TEXT"⟩]
  limit := some (.count 5)

def visitRemoval : Query where
  operation := .dropTable
  table := "visits"
  groupBy := some "day"

/-- The grouping of a select stands behind its sort order and limit, and an insert, a table creation
and the removal of a table are compiled with clauses that no such statement has. -/
theorem clauses_outside_grammar :
    (∃ fragment, cityVisits.compile = .ok fragment ∧
      fragment.sql = "SELECT city FROM visits ORDER BY city ASC LIMIT 5 GROUP BY city" ∧
      Trailing.read fragment.sql = ["ORDER", "LIMIT", "GROUP"] ∧
      ¬["ORDER", "LIMIT", "GROUP"].Sublist ["WHERE", "GROUP", "ORDER", "LIMIT"]) ∧
    (∃ fragment, lateVisit.compile = .ok fragment ∧
      fragment.sql = "INSERT INTO visits (day) VALUES (?) WHERE id = ? GROUP BY day" ∧
      Trailing.read fragment.sql = ["WHERE", "GROUP"]) ∧
    (∃ fragment, visitTable.compile = .ok fragment ∧
      fragment.sql = "CREATE TABLE visits (day TEXT) LIMIT 5" ∧
      Trailing.read fragment.sql = ["LIMIT"]) ∧
    ∃ fragment, visitRemoval.compile = .ok fragment ∧
      fragment.sql = "DROP TABLE IF EXISTS visits GROUP BY day" ∧
      Trailing.read fragment.sql = ["GROUP"] :=
  ⟨⟨_, rfl, by decide, by decide, by decide⟩, ⟨_, rfl, by decide, by decide⟩,
    ⟨_, rfl, by decide, by decide⟩, _, rfl, by decide, by decide⟩

end Query

end BoundSql
