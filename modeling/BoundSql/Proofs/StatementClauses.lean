import BoundSql.Proofs.Clauses
import BoundSql.Proofs.Placeholders

/-! Statements over data as lists of clauses. With plain names, the tokens of a compiled query are
those of its clauses, and no clause is taken for the beginning or the end of another one. -/

namespace BoundSql

def Assigned.slot : Assigned → Token
  | .bound _ => .mark
  | .raw sql => .word sql

def Join.Plain (join : Join) : Prop :=
  ∃ left right, Token.isPlainName left = true ∧ Token.isPlainName right = true ∧
    join.on = left ++ " = " ++ right

theorem Join.ofText_on {join : Join} (plain : join.Plain) :
    ∃ left right, Token.isPlainName left = true ∧ Token.isPlainName right = true ∧
      join.on = left ++ " = " ++ right ∧
      Token.ofText join.on = [.word left, .sign "=", .word right] := by
  obtain ⟨left, right, leftPlain, rightPlain, on⟩ := plain
  refine ⟨left, right, leftPlain, rightPlain, on, ?_⟩
  rw [on, Token.ofText_append (.inl (Token.endsAlone_append _ (by decide))),
    Token.ofText_append (.inr rfl), Token.ofText_plainName leftPlain,
    Token.ofText_plainName rightPlain]
  rfl

section Conditions

open Token

theorem Condition.free_heading {column : String} (plain : isPlainName column = true)
    (operator : Operator) {rest : String} (starts : startsAlone rest = true)
    (free : Clause.Free (ofText rest)) :
    Clause.Free (ofText (column ++ (" " ++ (operator.sql ++ rest)))) := by
  have operatorFree : Clause.Free (ofText operator.sql) := by cases operator <;> decide
  have blank : ofText " " = [] := rfl
  rw [ofText_append (.inr (startsAlone_append rfl (by simp))), ofText_append (.inl rfl),
    ofText_append (.inr starts), ofText_plainName plain]
  simp [Clause.opens_of_isPlainName plain, operatorFree, free, blank]

theorem Condition.free_comparisonText {column : String} (plain : isPlainName column = true)
    (operator : Operator) (value : Value) :
    Clause.Free (ofText (comparisonText column operator (Value.mark value))) := by
  simp only [comparisonText, Value.mark, String.append_assoc]
  split
  · exact free_heading plain operator rfl (by decide)
  · exact free_heading plain operator rfl (by decide)

theorem free_marks (values : List Value) :
    Clause.Free (ofText (", ".intercalate (values.map Value.mark))) := by
  have slot : ofText "?" = [.mark] := rfl
  have shaped : ∀ value ∈ values, ofText (Value.mark value) = [.mark] := fun _ _ => slot
  rw [ofText_listed shaped]
  exact Clause.free_listed fun _ _ => by decide

theorem Condition.free_written {leaf : Condition} (plain : isPlainName leaf.column = true) :
    Clause.Free (ofText (leaf.written Value.mark)) := by
  have opening : ofText " (" = [.opening] := rfl
  have closing : ofText ")" = [.closing] := rfl
  simp only [written, String.append_assoc]
  split
  · exact free_comparisonText plain _ _
  · split
    · exact free_comparisonText plain _ _
    · apply free_heading plain
      · exact startsAlone_append rfl (by simp)
      · rw [ofText_append (.inl rfl), ofText_append (.inr rfl), opening, closing]
        simp [free_marks]

namespace Predicate

mutual

theorem free_written : ∀ predicate : Predicate,
    (∀ leaf ∈ predicate.conditions, isPlainName leaf.column = true) →
      Clause.Free (ofText (predicate.written Value.mark))
  | .condition leaf, plain => leaf.free_written (plain leaf (by simp [conditions]))
  | .group connective children, plain => by
      have free := free_writtenParts children (by simpa [conditions] using plain)
      rw [written]
      have separator : startsAlone (" " ++ connective.sql ++ " ") = true ∧
          endsAlone (" " ++ connective.sql ++ " ") = true ∧ " " ++ connective.sql ++ " " ≠ "" ∧
          Clause.Free (ofText (" " ++ connective.sql ++ " ")) := by cases connective <;> decide
      rw [ofText_intercalate separator.1 separator.2.1 separator.2.2.1]
      exact Clause.free_intercalate separator.2.2.2 (by simpa using free)

theorem free_writtenParts : ∀ children : List Predicate,
    (∀ leaf ∈ childConditions children, isPlainName leaf.column = true) →
      ∀ part ∈ writtenParts Value.mark children, Clause.Free (ofText part)
  | [], _ => by simp [writtenParts]
  | child :: rest, plain => by
      simp only [childConditions, List.mem_append, or_imp, forall_and] at plain
      have free := free_written child plain.1
      have following := free_writtenParts rest plain.2
      have enclosed : Clause.Free (ofText ("(" ++ child.written Value.mark ++ ")")) := by
        have opening : ofText "(" = [.opening] := rfl
        have closing : ofText ")" = [.closing] := rfl
        rw [ofText_append (.inr rfl), ofText_append (.inl rfl), opening, closing]
        simp [free]
      rw [writtenParts]
      split
      · exact following
      · split
        · simpa [enclosed] using following
        · simpa [free] using following

end

end Predicate

end Conditions

namespace Query

def listedColumns (query : Query) : List String :=
  match query.columns with
  | .list expressions => expressions
  | _ => []

/-- A statement over data in which every name is plain. -/
structure Plain (query : Query) : Prop where
  operation : query.operation ≠ .createTable ∧ query.operation ≠ .dropTable
  table : Token.isPlainName query.tableName = true
  columns : query.columns = .all ∨ query.columns = .list query.listedColumns
  listed : ∀ column ∈ query.listedColumns, Token.isPlainName column = true
  fields : ∀ field ∈ query.fieldValues, Token.isPlainName field.1 = true
  raws : ∀ field ∈ query.fieldValues, ∀ sql ∈ field.2.texts, Token.isPlainName sql = true
  conditions : ∀ predicate ∈ query.predicate, ∀ column ∈ predicate.columns,
    Token.isPlainName column = true
  joinTables : ∀ join ∈ query.joins, Token.isPlainName (query.tablePrefix ++ join.table) = true
  joins : ∀ join ∈ query.joins, join.Plain
  orderBy : ∀ order ∈ query.orderBy, Token.isPlainName order.column = true
  groupBy : ∀ column ∈ query.groupBy, Token.isPlainName column = true

section Clauses

open Token

def joinClause (query : Query) (join : Join) : Clause :=
  ⟨"LEFT", .word "JOIN" :: .word (query.tablePrefix ++ join.table) :: .word "ON" :: ofText join.on⟩

def outputTokens (query : Query) (everything : List Token) : List Token :=
  if query.listedColumns = [] then everything
  else Token.listed (query.listedColumns.map fun column => [.word column])

def readClauses (query : Query) (everything : List Token) : List Clause :=
  ⟨"SELECT", query.outputTokens everything⟩ :: ⟨"FROM", [.word query.tableName]⟩ ::
    query.joins.map query.joinClause

def operationClauses (query : Query) : List Clause :=
  match query.operation with
  | .select => query.readClauses [.other '*']
  | .count => query.readClauses [.word "COUNT", .opening, .other '*', .closing]
  | .insert =>
      [⟨"INSERT", .word "INTO" :: .word query.tableName :: .opening ::
        (Token.listed (query.fieldValues.map fun field => [.word field.1]) ++ [.closing])⟩,
      ⟨"VALUES", .opening ::
        (Token.listed (query.fieldValues.map fun field => [field.2.slot]) ++ [.closing])⟩]
  | .update =>
      [⟨"UPDATE", [.word query.tableName]⟩,
      ⟨"SET", Token.listed
        (query.fieldValues.map fun field => [.word field.1, .sign "=", field.2.slot])⟩]
  | .delete => [⟨"DELETE", []⟩, ⟨"FROM", [.word query.tableName]⟩]
  | .createTable => []
  | .dropTable => []

def whereClauses (query : Query) : List Clause :=
  match query.predicate with
  | none => []
  | some predicate =>
      if predicate.isEmpty then [] else [⟨"WHERE", ofText (predicate.written Value.mark)⟩]

def orderClauses (query : Query) : List Clause :=
  if query.orderBy = [] then []
  else
    [⟨"ORDER", .word "BY" :: Token.listed
      (query.orderBy.map fun order => [.word order.column, .word order.direction.sql])⟩]

def limitTokens : Limit → List Token
  | .count rows => [.word rows.toNat.repr]
  | .range skipped rows => [.word skipped.toNat.repr, .comma, .word rows.toNat.repr]

def limitClauses (query : Query) : List Clause :=
  match query.limit with
  | none => []
  | some limit => [⟨"LIMIT", limitTokens limit⟩]

def groupClauses (query : Query) : List Clause :=
  match query.groupBy with
  | none => []
  | some column => [⟨"GROUP", [.word "BY", .word column]⟩]

def clauses (query : Query) : List Clause :=
  query.operationClauses ++ query.whereClauses ++
    (query.orderClauses ++ query.limitClauses ++ query.groupClauses)

variable {query : Query}

theorem ofText_columnsText (plain : query.Plain) (everything : String) :
    ofText (query.columnsText everything) = query.outputTokens (ofText everything) := by
  rcases plain.columns with all | listed
  · simp [columnsText, outputTokens, listedColumns, all]
  · cases shape : query.listedColumns with
    | nil =>
        rw [shape] at listed
        simp [columnsText, outputTokens, shape, listed]
    | cons first rest =>
        have names := ofText_listed fun column member =>
          ofText_plainName (plain.listed column member)
        rw [shape, List.map_id'] at names
        rw [shape] at listed
        simp only [columnsText, listed, outputTokens, shape, names]
        simp

theorem joinSql_eq (query : Query) (join : Join) : query.joinSql join =
    " LEFT JOIN " ++ (query.tablePrefix ++ join.table) ++ (" ON " ++ join.on) := by
  have kind : join.kind.sql = "LEFT JOIN" := by cases join.kind; rfl
  have sql : query.joinSql join = " " ++ join.kind.sql ++ " " ++ query.tablePrefix ++ join.table ++
    " ON " ++ join.on := rfl
  rw [sql, kind]
  simp only [String.append_assoc]
  rfl

theorem startsAlone_joinSql (query : Query) (join : Join) :
    startsAlone (query.joinSql join) = true := by
  rw [joinSql_eq, String.append_assoc]
  exact startsAlone_append rfl (by simp)

theorem ofText_joinSql (plain : query.Plain) {join : Join} (member : join ∈ query.joins) :
    ofText (query.joinSql join) = (query.joinClause join).tokens := by
  have following : startsAlone (" ON " ++ join.on) = true := startsAlone_append rfl (by simp)
  rw [joinSql_eq, ofText_append (.inr following), ofText_append (.inl rfl),
    ofText_plainName (plain.joinTables join member), ofText_append (.inl rfl)]
  rfl

theorem ofText_joins (plain : query.Plain) :
    ofText (String.join (query.joins.map query.joinSql)) =
      (query.joins.map query.joinClause).flatMap Clause.tokens := by
  have starts : ∀ text ∈ query.joins.map query.joinSql, startsAlone text = true := by
    simp [startsAlone_joinSql]
  rw [ofText_join starts, List.flatMap_map, List.flatMap_map]
  exact List.flatMap_congr fun join member => ofText_joinSql plain member

theorem ofText_selectText (plain : query.Plain) (everything : String) :
    ofText (query.selectText everything) =
      (query.readClauses (ofText everything)).flatMap Clause.tokens := by
  have starts : startsAlone (String.join (query.joins.map query.joinSql)) = true :=
    startsAlone_join (by simp [startsAlone_joinSql])
  have heading : ofText "SELECT " = [.word "SELECT"] := rfl
  have between : ofText " FROM " = [.word "FROM"] := rfl
  rw [selectText, ofText_append (.inr starts), ofText_joins plain,
    ofText_append (.inl (endsAlone_append _ (by decide))), ofText_append (.inr rfl),
    ofText_append (.inl rfl), ofText_columnsText plain, ofText_plainName plain.table, heading,
    between]
  simp [readClauses, Clause.tokens]

theorem ofText_slot (plain : query.Plain) {field : String × Assigned}
    (member : field ∈ query.fieldValues) :
    ofText (field.2.written Value.mark) = [field.2.slot] := by
  cases assigned : field.2 with
  | bound value =>
      have slot : ofText "?" = [.mark] := rfl
      exact slot
  | raw sql =>
      have raw := plain.raws field member sql (by simp [assigned, Assigned.texts])
      exact ofText_plainName raw

theorem ofText_insert (plain : query.Plain) :
    ofText ("INSERT INTO " ++ query.tableName ++ " (" ++
        ", ".intercalate (query.fieldValues.map Prod.fst) ++ ") VALUES (" ++
        ", ".intercalate (query.fieldValues.map fun field => field.2.written Value.mark) ++ ")") =
      .word "INSERT" :: .word "INTO" :: .word query.tableName :: .opening ::
        (listed (query.fieldValues.map fun field => [.word field.1]) ++ .closing ::
          .word "VALUES" :: .opening ::
            (listed (query.fieldValues.map fun field => [field.2.slot]) ++ [.closing])) := by
  have names := ofText_listed fun field member => ofText_plainName (plain.fields field member)
  have slots := ofText_listed fun field member => ofText_slot plain member
  have heading : ofText "INSERT INTO " = [.word "INSERT", .word "INTO"] := rfl
  have before : ofText " (" = [.opening] := rfl
  have between : ofText ") VALUES (" = [.closing, .word "VALUES", .opening] := rfl
  have after : ofText ")" = [.closing] := rfl
  rw [ofText_append (.inr rfl), ofText_append (.inl (endsAlone_append _ (by decide))),
    ofText_append (.inr rfl), ofText_append (.inl (endsAlone_append _ (by decide))),
    ofText_append (.inr rfl), ofText_append (.inl rfl), ofText_plainName plain.table,
    names, slots, heading, before, between, after]
  simp

theorem ofText_assignment (plain : query.Plain) {field : String × Assigned}
    (member : field ∈ query.fieldValues) :
    ofText (field.1 ++ " = " ++ field.2.written Value.mark) =
      [.word field.1, .sign "=", field.2.slot] := by
  rw [ofText_append (.inl (endsAlone_append _ (by decide))), ofText_append (.inr rfl),
    ofText_plainName (plain.fields field member), ofText_slot plain member]
  rfl

theorem ofText_update (plain : query.Plain) :
    ofText ("UPDATE " ++ query.tableName ++ " SET " ++ ", ".intercalate
        (query.fieldValues.map fun field => field.1 ++ " = " ++ field.2.written Value.mark)) =
      .word "UPDATE" :: .word query.tableName :: .word "SET" ::
        listed (query.fieldValues.map fun field => [.word field.1, .sign "=", field.2.slot]) := by
  have assignments := ofText_listed fun field member => ofText_assignment plain member
  rw [ofText_append (.inl (endsAlone_append _ (by decide))), ofText_append (.inr rfl),
    ofText_append (.inl rfl), ofText_plainName plain.table, assignments]
  rfl

theorem ofText_operationText (plain : query.Plain) :
    ofText (query.operationText Value.mark) =
      query.operationClauses.flatMap Clause.tokens := by
  cases operation : query.operation with
  | select =>
      simp only [operationText, operationClauses, operation, ofText_selectText plain]
      rfl
  | count =>
      simp only [operationText, operationClauses, operation, ofText_selectText plain]
      rfl
  | insert =>
      simp only [operationText, operationClauses, operation, ofText_insert plain]
      simp [Clause.tokens]
  | update =>
      simp only [operationText, operationClauses, operation, ofText_update plain]
      simp [Clause.tokens]
  | delete =>
      simp only [operationText, operationClauses, operation]
      rw [ofText_append (.inl rfl), ofText_plainName plain.table]
      rfl
  | createTable => exact absurd operation plain.operation.1
  | dropTable => exact absurd operation plain.operation.2

theorem written_where (query : Query) :
    Clause.Written query.whereClauses (query.whereText Value.mark) := by
  cases given : query.predicate with
  | none => simpa only [whereText, whereClauses, given] using Clause.Written.nil
  | some predicate =>
      cases empty : predicate.isEmpty with
      | true =>
          simp only [whereText, whereClauses, given, empty, if_true]
          exact Clause.Written.nil
      | false =>
          have keyword : ofText " WHERE " = [.word "WHERE"] := rfl
          simp only [whereText, whereClauses, given, empty, Bool.false_eq_true, if_false]
          exact .singleton (by decide) rfl rfl keyword rfl

theorem ofText_order {order : OrderBy} (plain : isPlainName order.column = true) :
    ofText order.sql = [.word order.column, .word order.direction.sql] := by
  rw [OrderBy.sql, ofText_append (.inl (endsAlone_append _ (by decide))), ofText_append (.inr rfl),
    ofText_plainName plain]
  cases order.direction <;> rfl

theorem written_order (plain : query.Plain) :
    Clause.Written query.orderClauses
      (if query.orderBy = [] then "" else " ORDER BY " ++ OrderBy.listSql query.orderBy) := by
  by_cases unordered : query.orderBy = []
  · simp only [orderClauses, unordered, if_true]
    exact Clause.Written.nil
  · have orders := ofText_listed fun order member => ofText_order (plain.orderBy order member)
    have keywords : ofText " ORDER BY " = [.word "ORDER", .word "BY"] := rfl
    simp only [orderClauses, unordered, if_false]
    refine .singleton (by decide) rfl rfl keywords ?_
    rw [OrderBy.listSql, orders]
    rfl

theorem isDigit_of_mem_repr {number : Nat} {char : Char} (member : char ∈ number.repr.toList) :
    char.isDigit = true :=
  Nat.isDigit_of_mem_toDigits (b := 10) (by decide) (by decide) (by simpa using member)

theorem ofText_number (number : Nat) : ofText number.repr = [.word number.repr] := by
  have digits : ∀ char ∈ number.repr.toList, isWordChar char = true := by
    intro char member
    simp [isWordChar, Char.isAlphanum, isDigit_of_mem_repr member]
  have filled : number.repr.toList ≠ [] := by simp
  rw [ofText, ofChars_word filled digits, String.ofList_toList]

theorem ofText_limit (limit : Limit) : ofText limit.sql = limitTokens limit := by
  cases limit with
  | count rows => exact ofText_number rows.toNat
  | range skipped rows =>
      have text : (Limit.range skipped rows).sql =
          skipped.toNat.repr ++ ", " ++ rows.toNat.repr := rfl
      rw [text, ofText_append (.inl (endsAlone_append _ (by decide))), ofText_append (.inr rfl),
        ofText_number, ofText_number]
      rfl

theorem written_limit (query : Query) :
    Clause.Written query.limitClauses
      (match query.limit with
        | none => ""
        | some limit => " LIMIT " ++ limit.sql) := by
  cases given : query.limit with
  | none => simpa only [limitClauses, given] using Clause.Written.nil
  | some limit =>
      have keyword : ofText " LIMIT " = [.word "LIMIT"] := rfl
      simp only [limitClauses, given]
      refine .singleton (by decide) rfl rfl keyword ?_
      rw [ofText_limit]
      rfl

theorem written_group (plain : query.Plain) :
    Clause.Written query.groupClauses
      (match query.groupBy with
        | none => ""
        | some column => " GROUP BY " ++ column) := by
  cases given : query.groupBy with
  | none => simpa only [groupClauses, given] using Clause.Written.nil
  | some column =>
      have keywords : ofText " GROUP BY " = [.word "GROUP", .word "BY"] := rfl
      simp only [groupClauses, given]
      refine .singleton (by decide) rfl rfl keywords ?_
      rw [ofText_plainName (plain.groupBy column given)]
      rfl

theorem ofText_written (plain : query.Plain) :
    ofText (query.written Value.mark) = query.clauses.flatMap Clause.tokens := by
  have trailing : Clause.Written (query.orderClauses ++ query.limitClauses ++ query.groupClauses)
      query.trailingText :=
    ((written_order plain).append query.written_limit).append (written_group plain)
  have following := query.written_where.append trailing
  rw [written, String.append_assoc, ofText_append (.inr following.starts),
    ofText_operationText plain, following.tokens_eq, clauses]
  simp only [List.append_assoc, List.flatMap_append]

theorem opens_slot (plain : query.Plain) {field : String × Assigned}
    (member : field ∈ query.fieldValues) : Clause.opens field.2.slot = false := by
  cases assigned : field.2 with
  | bound value => rfl
  | raw sql =>
      have raw := plain.raws field member sql (by simp [assigned, Assigned.texts])
      exact Clause.opens_of_isPlainName raw

def operationKeywords : List String :=
  ["SELECT", "FROM", "LEFT", "INSERT", "VALUES", "UPDATE", "SET", "DELETE"]

theorem among_read (plain : query.Plain) {everything : List Token}
    (free : Clause.Free everything) :
    Clause.Among operationKeywords (query.readClauses everything) := by
  have output : Clause.Free (query.outputTokens everything) := by
    rw [outputTokens]
    split
    · exact free
    · refine Clause.free_listed fun column member => ?_
      simp [Clause.opens_of_isPlainName (plain.listed column member)]
  have joins : Clause.Among operationKeywords (query.joins.map query.joinClause) := by
    rw [Clause.Among, List.forall_mem_map]
    intro join member
    obtain ⟨left, right, leftPlain, rightPlain, _, tokens⟩ :=
      Join.ofText_on (plain.joins join member)
    have keywords : Clause.Free [.word "JOIN", .word "ON"] := by decide
    simp only [Clause.free_cons] at keywords
    have left : "LEFT" ∈ operationKeywords := by decide
    refine ⟨left, ?_⟩
    simp [joinClause, tokens, keywords, Clause.opens_of_isPlainName, leftPlain, rightPlain,
      plain.joinTables join member]
  simp only [readClauses, Clause.among_cons]
  refine ⟨⟨by decide, output⟩, ⟨by decide, ?_⟩, joins⟩
  simp [Clause.opens_of_isPlainName plain.table]

theorem among_operation (plain : query.Plain) :
    Clause.Among operationKeywords query.operationClauses := by
  have table := Clause.opens_of_isPlainName plain.table
  cases operation : query.operation with
  | select =>
      simp only [operationClauses, operation]
      exact among_read plain (by decide)
  | count =>
      simp only [operationClauses, operation]
      exact among_read plain (by decide)
  | insert =>
      have names : Clause.Free (listed (query.fieldValues.map fun field => [.word field.1])) := by
        refine Clause.free_listed fun field member => ?_
        simp [Clause.opens_of_isPlainName (plain.fields field member)]
      have slots : Clause.Free (listed (query.fieldValues.map fun field => [field.2.slot])) := by
        refine Clause.free_listed fun field member => ?_
        simp [opens_slot plain member]
      simp only [operationClauses, operation, Clause.among_cons]
      refine ⟨⟨by decide, ?_⟩, ⟨by decide, ?_⟩, by simp⟩
      · have keyword : Clause.opens (.word "INTO") = false := by decide
        simp [keyword, table, names]
      · simp [slots]
  | update =>
      have assignments : Clause.Free (listed (query.fieldValues.map fun field =>
          [.word field.1, .sign "=", field.2.slot])) := by
        refine Clause.free_listed fun field member => ?_
        simp [Clause.opens_of_isPlainName (plain.fields field member), opens_slot plain member]
      simp only [operationClauses, operation, Clause.among_cons]
      exact ⟨⟨by decide, by simp [table]⟩, ⟨by decide, assignments⟩, by simp⟩
  | delete =>
      simp only [operationClauses, operation, Clause.among_cons]
      exact ⟨⟨by decide, by simp⟩, ⟨by decide, by simp [table]⟩, by simp⟩
  | createTable => simp [operationClauses, operation]
  | dropTable => simp [operationClauses, operation]

theorem among_where (plain : query.Plain) : Clause.Among ["WHERE"] query.whereClauses := by
  cases given : query.predicate with
  | none => simp [whereClauses, given]
  | some predicate =>
      have columns := plain.conditions predicate given
      have free := predicate.free_written (by simpa [Predicate.columns] using columns)
      simp only [whereClauses, given]
      split
      · simp
      · simpa using free

theorem among_order (plain : query.Plain) : Clause.Among ["ORDER"] query.orderClauses := by
  have directions : ∀ direction : Direction, Clause.opens (.word direction.sql) = false := by
    intro direction
    cases direction <;> decide
  have orders : Clause.Free (listed
      (query.orderBy.map fun order => [.word order.column, .word order.direction.sql])) := by
    refine Clause.free_listed fun order member => ?_
    simp [Clause.opens_of_isPlainName (plain.orderBy order member), directions]
  have keyword : Clause.opens (.word "BY") = false := by decide
  rw [orderClauses]
  split
  · simp
  · simp [orders, keyword]

theorem opens_number (number : Nat) : Clause.opens (.word number.repr) = false := by
  have lettered : ∀ keyword ∈ Clause.keywords, keyword.toList.any (!·.isDigit) = true := by decide
  simp only [Clause.opens, List.contains_eq_mem, decide_eq_false_iff_not]
  intro member
  obtain ⟨char, present, letter⟩ := List.any_eq_true.mp (lettered number.repr member)
  simp [isDigit_of_mem_repr present] at letter

theorem among_limit (query : Query) : Clause.Among ["LIMIT"] query.limitClauses := by
  cases given : query.limit with
  | none => simp [limitClauses, given]
  | some limit => cases limit <;> simp [limitClauses, given, limitTokens, opens_number]

theorem among_group (plain : query.Plain) : Clause.Among ["GROUP"] query.groupClauses := by
  have keyword : Clause.opens (.word "BY") = false := by decide
  cases given : query.groupBy with
  | none => simp [groupClauses, given]
  | some column =>
      simp [groupClauses, given, keyword, Clause.opens_of_isPlainName (plain.groupBy column given)]

theorem among_clauses (plain : query.Plain) : Clause.Among Clause.keywords query.clauses :=
  ((among_operation plain).append (among_where plain)).append
    (((among_order plain).append (among_limit query)).append (among_group plain))

theorem clauses_eq_of_sql {other : Query} (plain : query.Plain) (otherPlain : other.Plain)
    {left right : Fragment} (compiled : query.compile = .ok left)
    (otherCompiled : other.compile = .ok right) (sql : left.sql = right.sql) :
    query.clauses = other.clauses := by
  have text : query.written Value.mark = other.written Value.mark := by
    rw [← (compile_renders compiled).written_eq, ← (compile_renders otherCompiled).written_eq,
      ← Fragment.sql_eq_written, ← Fragment.sql_eq_written, sql]
  have same := congrArg ofText text
  rw [ofText_written plain, ofText_written otherPlain] at same
  exact Clause.eq_of_tokens (among_clauses plain) (among_clauses otherPlain) same

theorem parts_of_clauses {other : Query} (plain : query.Plain) (otherPlain : other.Plain)
    (same : query.clauses = other.clauses) :
    query.operationClauses = other.operationClauses ∧ query.whereClauses = other.whereClauses ∧
      query.orderClauses = other.orderClauses ∧ query.limitClauses = other.limitClauses ∧
      query.groupClauses = other.groupClauses := by
  -- the list of keywords is cut in the middle first and then each half of it
  obtain ⟨leading, trailing⟩ := Clause.parts_eq (by decide)
    ((among_operation plain).append (among_where plain))
    ((among_operation otherPlain).append (among_where otherPlain))
    (((among_order plain).append (among_limit query)).append (among_group plain))
    (((among_order otherPlain).append (among_limit other)).append (among_group otherPlain)) same
  obtain ⟨operations, conditions⟩ := Clause.parts_eq (by decide) (among_operation plain)
    (among_operation otherPlain) (among_where plain) (among_where otherPlain) leading
  obtain ⟨ordered, groups⟩ := Clause.parts_eq (by decide)
    ((among_order plain).append (among_limit query))
    ((among_order otherPlain).append (among_limit other)) (among_group plain)
    (among_group otherPlain) trailing
  obtain ⟨orders, limits⟩ := Clause.parts_eq (by decide) (among_order plain)
    (among_order otherPlain) (among_limit query) (among_limit other) ordered
  exact ⟨operations, conditions, orders, limits, groups⟩

end Clauses

end Query

end BoundSql
