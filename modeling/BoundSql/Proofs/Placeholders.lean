import BoundSql.Proofs.Statements

/-! Statements with their values written in place, and the order in which values are bound. A
statement none of whose texts holds a question mark has one mark for each value, and filling the
marks in order gives the statement with each value written where it is assigned or compared. -/

namespace BoundSql

namespace Assigned

def written (write : Value → String) : Assigned → String
  | .bound value => write value
  | .raw sql => sql

def boundValues : Assigned → List Value
  | .bound value => [value]
  | .raw _ => []

def texts : Assigned → List String
  | .bound _ => []
  | .raw sql => [sql]

end Assigned

namespace Condition

def comparisonText (column : String) (operator : Operator) (operand : String) : String :=
  if operator.takesList then column ++ " " ++ operator.sql ++ " (" ++ operand ++ ")"
  else column ++ " " ++ operator.sql ++ " " ++ operand

/-- The condition with its values in place, a list without its duplicates. -/
def written (write : Value → String) (condition : Condition) : String :=
  match condition.operand with
  | .scalar value =>
      comparisonText condition.column (condition.operator.getD .eq) (write value)
  | .list values =>
      match Value.distinct values with
      | [single] =>
          comparisonText condition.column ((condition.operator.map Operator.singular).getD .eq)
            (write single)
      | several =>
          condition.column ++ " " ++ (condition.operator.getD .within).sql ++ " (" ++
            ", ".intercalate (several.map write) ++ ")"

end Condition

namespace Predicate

mutual

def written (write : Value → String) : Predicate → String
  | .condition leaf => leaf.written write
  | .group connective children =>
      (" " ++ connective.sql ++ " ").intercalate (writtenParts write children)

def writtenParts (write : Value → String) : List Predicate → List String
  | [] => []
  | child :: rest =>
      if child.isEmpty then writtenParts write rest
      else
        (if child.isGroup then "(" ++ child.written write ++ ")" else child.written write) ::
          writtenParts write rest

end

def boundValues (predicate : Predicate) : List Value :=
  predicate.conditions.flatMap Condition.boundValues

end Predicate

namespace Query

def operationText (query : Query) (write : Value → String) : String :=
  match query.operation with
  | .select => query.selectText "*"
  | .count => query.selectText "COUNT(*)"
  | .insert =>
      "INSERT INTO " ++ query.tableName ++ " (" ++
        ", ".intercalate (query.fieldValues.map Prod.fst) ++ ") VALUES (" ++
        ", ".intercalate (query.fieldValues.map fun field => field.2.written write) ++ ")"
  | .update =>
      "UPDATE " ++ query.tableName ++ " SET " ++ ", ".intercalate
        (query.fieldValues.map fun field => field.1 ++ " = " ++ field.2.written write)
  | .delete => "DELETE FROM " ++ query.tableName
  | .createTable => query.createText
  | .dropTable => "DROP TABLE IF EXISTS " ++ query.tableName

def whereText (query : Query) (write : Value → String) : String :=
  match query.predicate with
  | none => ""
  | some predicate => if predicate.isEmpty then "" else " WHERE " ++ predicate.written write

def trailingText (query : Query) : String :=
  (if query.orderBy = [] then "" else " ORDER BY " ++ OrderBy.listSql query.orderBy) ++
  (match query.limit with
    | none => ""
    | some limit => " LIMIT " ++ limit.sql) ++
  (match query.groupBy with
    | none => ""
    | some column => " GROUP BY " ++ column)

/-- The whole statement, each value written by `write` in its place. -/
def written (write : Value → String) (query : Query) : String :=
  query.operationText write ++ query.whereText write ++ query.trailingText

def assignedValues (query : Query) : List Value :=
  match query.operation with
  | .insert => query.fieldValues.flatMap fun field => field.2.boundValues
  | .update => query.fieldValues.flatMap fun field => field.2.boundValues
  | _ => []

def conditionValues (query : Query) : List Value :=
  match query.predicate with
  | none => []
  | some predicate => predicate.boundValues

def selectTexts (query : Query) : List String :=
  (match query.columns with
    | .list expressions => expressions
    | .raw sql => [sql]
    | _ => []) ++
  query.joins.flatMap fun join => [join.table, join.on]

def fieldTexts (query : Query) : List String :=
  query.fieldValues.flatMap fun field => field.1 :: field.2.texts

def createTexts (query : Query) : List String :=
  (match query.columns with
    | .definitions entries => entries.flatMap fun entry => entry.name.toList ++ [entry.definition]
    | _ => []) ++
  query.tableOptions.toList

def operationTexts (query : Query) : List String :=
  match query.operation with
  | .select => query.selectTexts
  | .count => query.selectTexts
  | .insert => query.fieldTexts
  | .update => query.fieldTexts
  | .delete => []
  | .createTable => query.createTexts
  | .dropTable => []

def conditionTexts (query : Query) : List String :=
  match query.predicate with
  | none => []
  | some predicate => predicate.columns

def trailingTexts (query : Query) : List String :=
  query.orderBy.map OrderBy.column ++ query.groupBy.toList

/-- The texts that the statement takes over from its description as they are. -/
def verbatim (query : Query) : List String :=
  [query.tablePrefix, query.table] ++ query.operationTexts ++ query.conditionTexts ++
    query.trailingTexts

end Query

namespace Condition

theorem mark_not_mem_operator (operator : Operator) : '?' ∉ operator.sql.toList := by
  cases operator <;> decide

theorem comparison_renders (column : String) (operator : Operator) (value : Value) :
    Fragment.Renders [column] [value] (fun write => comparisonText column operator (write value))
      (comparison column operator value) := by
  unfold comparison comparisonText
  split
  all_goals
    constructor
    · rfl
    · intro write
      simp [String.append_assoc]
    · intro free
      simp only [markFree_cons] at free
      simp [free.1, mark_not_mem_operator]

theorem slot_renders (value : Value) :
    Fragment.Renders [] [value] (fun write => write value) [.slot value] := by
  constructor
  · rfl
  · intro write
    simp
  · simp

theorem slots_render (values : List Value) :
    Fragment.PartsRender [] values (fun write => values.map write)
      (values.map fun value => [.slot value]) := by
  have parts := Fragment.PartsRender.map values slot_renders
  have noTexts : values.flatMap (fun _ => ([] : List String)) = [] := by simp
  have allValues : values.flatMap (fun value => [value]) = values := by simp
  rwa [noTexts, allValues] at parts

theorem membership_renders (column : String) (operator : Operator) (values : List Value) :
    Fragment.Renders [column] values
      (fun write => column ++ " " ++ operator.sql ++ " (" ++
        ", ".intercalate (values.map write) ++ ")")
      (membership column operator values) := by
  have slots := (slots_render values).joined ", " (by decide)
  have opening := Fragment.Renders.ofText [column]
    (column ++ " " ++ operator.sql ++ " (") (by simp [mark_not_mem_operator])
  have closing := Fragment.Renders.ofText [] ")" (by simp)
  simpa [membership, Fragment.ofText, String.append_assoc] using
    opening.append (slots.append closing)

theorem Form.renders {condition : Condition} {fragment : Fragment}
    (form : condition.Form fragment) :
    fragment.Renders [condition.column] condition.boundValues
      (fun write => condition.written write) := by
  cases form with
  | scalar value operand =>
      simpa [boundValues, written, operand] using comparison_renders condition.column _ value
  | single values value operand distinct =>
      simpa [boundValues, written, operand, distinct] using
        comparison_renders condition.column _ value
  | several values first second rest operand distinct _ =>
      simpa [boundValues, written, operand, distinct] using
        membership_renders condition.column _ (first :: second :: rest)

end Condition

namespace Predicate

theorem placed_renders (child : Predicate) {texts : List String} {values : List Value}
    {text : (Value → String) → String} {fragment : Fragment}
    (renders : fragment.Renders texts values text) :
    (child.placed fragment).Renders texts values
      (fun write => if child.isGroup then "(" ++ text write ++ ")" else text write) := by
  unfold placed
  cases child.isGroup with
  | true => simpa using renders.parenthesized
  | false => simpa using renders

mutual

theorem compile_renders : ∀ (predicate : Predicate) (fragment : Fragment),
    predicate.compile = .ok fragment →
      fragment.Renders predicate.columns predicate.boundValues
        (fun write => predicate.written write)
  | .condition leaf, fragment, compiled => by
      rw [compile] at compiled
      simpa [columns, boundValues, conditions, written] using
        (Condition.form_of_compile compiled).renders
  | .group connective children, fragment, compiled => by
      obtain ⟨parts, found, rfl⟩ := parts_of_compile compiled
      have separatorFree : '?' ∉ (" " ++ connective.sql ++ " ").toList := by
        cases connective <;> decide
      simpa only [columns, boundValues, conditions, written] using
        (compileChildren_render children parts found).joined _ separatorFree

theorem compileChildren_render : ∀ (children : List Predicate) (parts : List Fragment),
    compileChildren children = .ok parts →
      Fragment.PartsRender ((childConditions children).map Condition.column)
        ((childConditions children).flatMap Condition.boundValues)
        (fun write => writtenParts write children) parts
  | [], parts, compiled => by
      simp only [compileChildren, Except.ok.injEq] at compiled
      simpa [← compiled, childConditions, writtenParts] using Fragment.PartsRender.nil
  | child :: rest, parts, compiled => by
      by_cases empty : child.isEmpty = true
      · rw [compileChildren_of_isEmpty rest empty] at compiled
        simpa [childConditions, (isEmpty_iff child).mp empty, writtenParts, empty] using
          compileChildren_render rest parts compiled
      · simp only [Bool.not_eq_true] at empty
        obtain ⟨fragment, others, first, following, rfl⟩ := part_of_compileChildren compiled empty
        have firstRenders := placed_renders child (compile_renders child fragment first)
        simpa [childConditions, columns, boundValues, writtenParts, empty] using
          Fragment.PartsRender.cons firstRenders (compileChildren_render rest others following)

end

end Predicate

namespace Assigned

theorem fragment_renders (assigned : Assigned) :
    assigned.fragment.Renders assigned.texts assigned.boundValues
      (fun write => assigned.written write) := by
  cases assigned with
  | bound value =>
      constructor
      · rfl
      · intro write
        simp [fragment, written]
      · simp [fragment]
  | raw sql => exact Fragment.Renders.ofText _ sql (by simp [texts])

end Assigned

namespace Query

theorem mark_not_mem_intercalate {separator : String} {texts : List String}
    (separatorFree : '?' ∉ separator.toList) (free : MarkFree texts) :
    '?' ∉ (separator.intercalate texts).toList := by
  induction texts with
  | nil => simp
  | cons first rest ih =>
      simp only [markFree_cons] at free
      cases rest with
      | nil => simpa using free.1
      | cons second others =>
          rw [String.intercalate_cons_cons]
          simp only [String.toList_append, List.mem_append, not_or]
          exact ⟨⟨free.1, separatorFree⟩, ih free.2⟩

theorem joinSql_free {query : Query} (join : Join) (prefixFree : '?' ∉ query.tablePrefix.toList)
    (free : MarkFree [join.table, join.on]) : '?' ∉ (query.joinSql join).toList := by
  simp only [markFree_cons] at free
  have kindFree : '?' ∉ join.kind.sql.toList := by
    cases join.kind
    decide
  have sql : query.joinSql join = " " ++ join.kind.sql ++ " " ++ query.tablePrefix ++ join.table ++
      " ON " ++ join.on := rfl
  simp [sql, prefixFree, free.1, free.2.1, kindFree]

theorem selectText_free {query : Query} {everything : String} (plain : '?' ∉ everything.toList)
    (free : MarkFree ([query.tablePrefix, query.table] ++ query.selectTexts)) :
    '?' ∉ (query.selectText everything).toList := by
  simp only [selectTexts, markFree_append, markFree_cons] at free
  obtain ⟨⟨prefixFree, tableFree, _⟩, columnsFree, joinsFree⟩ := free
  have columns : '?' ∉ (query.columnsText everything).toList := by
    simp only [columnsText]
    cases shape : query.columns with
    | all => exact plain
    | list expressions =>
        cases expressions with
        | nil => exact plain
        | cons first rest =>
            exact mark_not_mem_intercalate (by decide) (by simpa [shape] using columnsFree)
    | raw sql => simpa [shape] using columnsFree
    | definitions entries => exact plain
  have joins : ∀ join ∈ query.joins, '?' ∉ (query.joinSql join).toList := fun join member =>
    joinSql_free join prefixFree ((markFree_flatMap _ _).mp joinsFree join member)
  simpa [selectText, columns, tableName, prefixFree, tableFree] using joins

theorem mem_of_mem_trim {char : Char} {chars : List Char} (member : char ∈ Text.trim chars) :
    char ∈ chars := by
  simp only [Text.trim, Text.trimEnd, Text.trimStart, List.mem_reverse] at member
  have inner := (List.dropWhile_sublist Text.isBlank).subset member
  exact (List.dropWhile_sublist Text.isBlank).subset (List.mem_reverse.mp inner)

theorem optionsSql_free {query : Query} (free : MarkFree query.tableOptions.toList) :
    '?' ∉ query.optionsSql.toList := by
  have given : '?' ∉ (query.tableOptions.getD "").toList := by
    cases options : query.tableOptions with
    | none => simp
    | some text => simpa [options] using free
  simp only [optionsSql]
  split
  · simp
  · have untouched : '?' ∉ Text.trim (query.tableOptions.getD "").toList :=
      fun member => given (mem_of_mem_trim member)
    simpa using untouched

theorem createText_free {query : Query}
    (free : MarkFree ([query.tablePrefix, query.table] ++ query.createTexts)) :
    '?' ∉ query.createText.toList := by
  simp only [createTexts, markFree_append, markFree_cons] at free
  obtain ⟨⟨prefixFree, tableFree, _⟩, entriesFree, optionsFree⟩ := free
  simp only [createText]
  cases shape : query.columns with
  | definitions entries =>
      have joined : '?' ∉ (", ".intercalate (entries.map ColumnEntry.sql)).toList := by
        apply mark_not_mem_intercalate (by decide)
        intro text member
        obtain ⟨entry, present, rfl⟩ := List.mem_map.mp member
        simp only [shape] at entriesFree
        have entryFree := (markFree_flatMap _ _).mp entriesFree entry present
        cases name : entry.name <;> simp_all [ColumnEntry.sql]
      simp [-String.toList_intercalate, joined, tableName, prefixFree, tableFree,
        optionsSql_free optionsFree]
  | all => simp
  | list expressions => simp
  | raw sql => simp

theorem assignment_renders (field : String × Assigned) :
    Fragment.Renders (field.1 :: field.2.texts) field.2.boundValues
      (fun write => field.1 ++ " = " ++ field.2.written write)
      (.text (field.1 ++ " = ") :: field.2.fragment) := by
  have name := Fragment.Renders.ofText [field.1] (field.1 ++ " = ") (by simp)
  exact name.append field.2.fragment_renders

theorem markFree_fields (fields : List (String × Assigned)) :
    MarkFree (fields.flatMap fun field => field.1 :: field.2.texts) ↔
      MarkFree (fields.map Prod.fst) ∧ MarkFree (fields.flatMap fun field => field.2.texts) := by
  induction fields with
  | nil => simp
  | cons field rest ih =>
      simp only [List.flatMap_cons, List.map_cons, markFree_append, markFree_cons, ih]
      exact and_and_and_comm

theorem insert_renders {query : Query} {fragment : Fragment}
    (compiled : query.insertStatement = .ok fragment) :
    fragment.Renders ([query.tablePrefix, query.table] ++ query.fieldTexts)
      (query.fieldValues.flatMap fun field => field.2.boundValues)
      (fun write => "INSERT INTO " ++ query.tableName ++ " (" ++
        ", ".intercalate (query.fieldValues.map Prod.fst) ++ ") VALUES (" ++
        ", ".intercalate (query.fieldValues.map fun field => field.2.written write) ++ ")") := by
  have slots := (Fragment.PartsRender.map query.fieldValues fun field =>
    field.2.fragment_renders).joined ", " (by decide)
  rw [fragment_of_insert compiled]
  constructor
  · simp [slots.values_eq]
  · intro write
    simp [slots.written_eq write, String.append_assoc]
  · intro free
    simp only [markFree_append, markFree_cons] at free
    obtain ⟨⟨prefixFree, tableFree, _⟩, fieldsFree⟩ := free
    obtain ⟨namesFree, rawFree⟩ := (markFree_fields query.fieldValues).mp fieldsFree
    have names : '?' ∉ (", ".intercalate (query.fieldValues.map Prod.fst)).toList :=
      mark_not_mem_intercalate (by decide) namesFree
    simp [-String.toList_intercalate, tableName, prefixFree, tableFree, names,
      slots.markFree rawFree]

theorem update_renders {query : Query} {fragment : Fragment}
    (compiled : query.updateStatement = .ok fragment) :
    fragment.Renders ([query.tablePrefix, query.table] ++ query.fieldTexts)
      (query.fieldValues.flatMap fun field => field.2.boundValues)
      (fun write => "UPDATE " ++ query.tableName ++ " SET " ++ ", ".intercalate
        (query.fieldValues.map fun field => field.1 ++ " = " ++ field.2.written write)) := by
  have opening := Fragment.Renders.ofText [query.tablePrefix, query.table]
    ("UPDATE " ++ query.tableName ++ " SET ") (by simp_all [tableName])
  have assignments := (Fragment.PartsRender.map query.fieldValues assignment_renders).joined ", "
    (by decide)
  rw [fragment_of_update compiled]
  simpa [fieldTexts, Fragment.ofText] using opening.append assignments

theorem statement_renders {query : Query} {fragment : Fragment}
    (compiled : query.statement = .ok fragment) :
    fragment.Renders ([query.tablePrefix, query.table] ++ query.operationTexts)
      query.assignedValues (fun write => query.operationText write) := by
  cases operation : query.operation with
  | select =>
      simp only [statement, operation] at compiled
      simp only [operationTexts, assignedValues, operationText, operation]
      rw [fragment_of_select compiled]
      exact Fragment.Renders.ofText _ _ (selectText_free (by decide))
  | count =>
      simp only [statement, operation] at compiled
      simp only [operationTexts, assignedValues, operationText, operation]
      rw [fragment_of_select compiled]
      exact Fragment.Renders.ofText _ _ (selectText_free (by decide))
  | insert =>
      simp only [statement, operation] at compiled
      simpa only [operationTexts, assignedValues, operationText, operation] using
        insert_renders compiled
  | update =>
      simp only [statement, operation] at compiled
      simpa only [operationTexts, assignedValues, operationText, operation] using
        update_renders compiled
  | delete =>
      simp only [statement, operation, Except.ok.injEq] at compiled
      simp only [operationTexts, assignedValues, operationText, operation, ← compiled]
      exact Fragment.Renders.ofText _ _ (by simp [tableName])
  | createTable =>
      simp only [statement, operation] at compiled
      simp only [operationTexts, assignedValues, operationText, operation]
      rw [fragment_of_create compiled]
      exact Fragment.Renders.ofText _ _ createText_free
  | dropTable =>
      simp only [statement, operation, Except.ok.injEq] at compiled
      simp only [operationTexts, assignedValues, operationText, operation, ← compiled]
      exact Fragment.Renders.ofText _ _ (by simp [tableName])

theorem whereClause_renders {query : Query} {condition : Fragment}
    (compiled : query.whereClause = .ok condition) :
    condition.Renders query.conditionTexts query.conditionValues
      (fun write => query.whereText write) := by
  cases given : query.predicate with
  | none =>
      simp only [whereClause, given, Except.ok.injEq] at compiled
      subst compiled
      simpa only [conditionTexts, conditionValues, whereText, given] using Fragment.Renders.nil
  | some predicate =>
      obtain ⟨fragment, found, rfl⟩ := condition_of_whereClause given compiled
      simp only [conditionTexts, conditionValues, whereText, given]
      cases empty : predicate.isEmpty with
      | true =>
          have none := predicate.isEmpty_iff.mp empty
          simpa [Predicate.columns, Predicate.boundValues, none] using Fragment.Renders.nil
      | false =>
          have keyword := Fragment.Renders.ofText [] " WHERE " (by simp)
          exact keyword.append (predicate.compile_renders fragment found)

theorem limitSql_free (limit : Limit) : '?' ∉ limit.sql.toList := by
  have digits : ∀ number : Nat, '?' ∉ Nat.toDigits 10 number := by
    intro number member
    have digit := Nat.isDigit_of_mem_toDigits (by decide) (by decide) member
    simp at digit
  cases limit <;> simp [Limit.sql, digits]

theorem orderClause_renders (query : Query) :
    query.orderClause.Renders (query.orderBy.map OrderBy.column) []
      (fun _ =>
        if query.orderBy = [] then "" else " ORDER BY " ++ OrderBy.listSql query.orderBy) := by
  by_cases unordered : query.orderBy = []
  · simpa [orderClause, unordered] using Fragment.Renders.nil
  · simp only [orderClause, unordered, if_false]
    apply Fragment.Renders.ofText
    intro free
    have directionFree : ∀ direction : Direction, '?' ∉ direction.sql.toList := by
      intro direction
      cases direction <;> decide
    have listFree : '?' ∉ (OrderBy.listSql query.orderBy).toList := by
      apply mark_not_mem_intercalate (by decide)
      intro text member
      obtain ⟨order, present, rfl⟩ := List.mem_map.mp member
      have columnFree := free order.column (List.mem_map_of_mem present)
      simp [OrderBy.sql, columnFree, directionFree]
    simp [listFree]

theorem limitClause_renders (query : Query) :
    query.limitClause.Renders [] []
      (fun _ => match query.limit with
        | none => ""
        | some limit => " LIMIT " ++ limit.sql) := by
  cases given : query.limit with
  | none => simpa only [limitClause, given] using Fragment.Renders.nil
  | some limit =>
      simp only [limitClause, given]
      exact Fragment.Renders.ofText _ _ (by simp [limitSql_free limit])

theorem groupClause_renders (query : Query) :
    query.groupClause.Renders query.groupBy.toList []
      (fun _ => match query.groupBy with
        | none => ""
        | some column => " GROUP BY " ++ column) := by
  cases given : query.groupBy with
  | none => simpa only [groupClause, given, Option.toList_none] using Fragment.Renders.nil
  | some column =>
      simp only [groupClause, given]
      exact Fragment.Renders.ofText _ _ (by simp)

theorem compile_renders {query : Query} {fragment : Fragment}
    (compiled : query.compile = .ok fragment) :
    fragment.Renders query.verbatim (query.assignedValues ++ query.conditionValues)
      (fun write => query.written write) := by
  obtain ⟨statement, condition, first, second, rfl⟩ := parts_of_compile compiled
  have body := (statement_renders first).append (whereClause_renders second)
  have clauses := ((body.append query.orderClause_renders).append query.limitClause_renders).append
    query.groupClause_renders
  simpa [verbatim, trailingTexts, written, trailingText, String.append_assoc] using clauses

/-- A statement whose own texts hold no question mark has one mark for each value. The values are
the assigned ones in the order of assignment and then those of the conditions, and filling the
marks with them gives the statement with every value written in its place. -/
theorem marks_bind_values (query : Query) (fragment : Fragment)
    (compiled : query.compile = .ok fragment) (free : MarkFree query.verbatim) :
    fragment.markCount = fragment.values.length ∧
      fragment.values = query.assignedValues ++ query.conditionValues ∧
      ∀ write : Value → String,
        String.ofList (fillMarks (fragment.values.map write) fragment.sql.toList) =
          query.written write := by
  have renders := compile_renders compiled
  obtain ⟨count, filled⟩ := renders.fill free
  refine ⟨count, renders.values_eq, ?_⟩
  intro write
  rw [filled write, String.ofList_toList]

def memberUpdate : Query where
  operation := .update
  table := "users"
  tablePrefix := "app_"
  fieldValues :=
    [("name", .bound (.text "b?")), ("seen", .raw "seen + 1"), ("age", .bound (.int 6))]
  predicate := some (.all [.any [], .eq "id" (.int 7),
    .any [.isIn "role" [.text "x", .text "y", .text "x"], .eq "left" .null]])
  limit := some (.count 1)

def memberUpdateFragment : Fragment :=
  [.text "UPDATE app_users SET ", .text "name = ", .slot (.text "b?"), .text ", ", .text "seen = ",
    .text "seen + 1", .text ", ", .text "age = ", .slot (.int 6), .text " WHERE ", .text "id = ",
    .slot (.int 7), .text " AND ", .text "(", .text "role IN (", .slot (.text "x"), .text ", ",
    .slot (.text "y"), .text ")", .text " OR ", .text "left = ", .slot .null, .text ")",
    .text " LIMIT 1"]

theorem marks_bind_values_memberUpdate :
    memberUpdate.compile = .ok memberUpdateFragment ∧ MarkFree memberUpdate.verbatim ∧
      memberUpdateFragment.markCount = memberUpdateFragment.values.length ∧
      memberUpdateFragment.values =
        [.text "b?", .int 6, .int 7, .text "x", .text "y", .null] ∧
      String.ofList (fillMarks
          (memberUpdateFragment.values.map fun value => if value.isNull then "NULL" else "?V")
          memberUpdateFragment.sql.toList) =
        "UPDATE app_users SET name = ?V, seen = seen + 1, age = ?V WHERE id = ?V AND " ++
          "(role IN (?V, ?V) OR left = NULL) LIMIT 1" := by
  have compiled : memberUpdate.compile = .ok memberUpdateFragment := rfl
  have free : MarkFree memberUpdate.verbatim := by decide
  obtain ⟨count, values, filled⟩ :=
    marks_bind_values memberUpdate memberUpdateFragment compiled free
  exact ⟨compiled, free, count, values, filled _⟩

end Query

end BoundSql
