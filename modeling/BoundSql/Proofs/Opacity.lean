import BoundSql.Proofs.Statements

/-! Compilation does not look into bound values. Changing the values of a query changes those of
its fragment in the same way and nothing else, as long as each list keeps the pattern of equal
values in it, which is all that decides on the values that are left out as duplicates. -/

namespace BoundSql

variable (convert : Value → Value)

def Piece.mapValue : Piece → Piece
  | .text content => .text content
  | .slot value => .slot (convert value)

def Fragment.mapValues (fragment : Fragment) : Fragment := fragment.map (Piece.mapValue convert)

def Operand.mapValues : Operand → Operand
  | .scalar value => .scalar (convert value)
  | .list values => .list (values.map convert)

def Condition.mapValues (condition : Condition) : Condition :=
  { condition with operand := condition.operand.mapValues convert }

namespace Predicate

mutual

def mapValues : Predicate → Predicate
  | .condition leaf => .condition (leaf.mapValues convert)
  | .group connective children => .group connective (mapChildren children)

def mapChildren : List Predicate → List Predicate
  | [] => []
  | child :: rest => child.mapValues :: mapChildren rest

end

end Predicate

def Assigned.mapValue : Assigned → Assigned
  | .bound value => .bound (convert value)
  | .raw sql => .raw sql

def Query.mapValues (query : Query) : Query :=
  { query with
    fieldValues := query.fieldValues.map fun field => (field.1, field.2.mapValue convert)
    predicate := query.predicate.map (Predicate.mapValues convert) }

def Value.KeepsEqual (values : List Value) : Prop :=
  values.Pairwise fun left right => left.equals right = (convert left).equals (convert right)

instance (values : List Value) : Decidable (Value.KeepsEqual convert values) :=
  inferInstanceAs (Decidable (List.Pairwise _ values))

/-- Lists of values keep their equal pairs; a scalar may become any other value. -/
def Condition.KeepsEqual (condition : Condition) : Prop :=
  match condition.operand with
  | .scalar _ => True
  | .list values => Value.KeepsEqual convert values

instance (condition : Condition) : Decidable (condition.KeepsEqual convert) :=
  match condition with
  | ⟨_, _, .scalar _⟩ => inferInstanceAs (Decidable True)
  | ⟨_, _, .list values⟩ => inferInstanceAs (Decidable (Value.KeepsEqual convert values))

def Predicate.KeepsEqual (predicate : Predicate) : Prop :=
  ∀ leaf ∈ predicate.conditions, leaf.KeepsEqual convert

instance (predicate : Predicate) : Decidable (predicate.KeepsEqual convert) :=
  inferInstanceAs (Decidable (∀ leaf ∈ predicate.conditions, leaf.KeepsEqual convert))

def Query.KeepsEqual (query : Query) : Prop :=
  ∀ predicate ∈ query.predicate, predicate.KeepsEqual convert

instance (query : Query) : Decidable (query.KeepsEqual convert) :=
  inferInstanceAs (Decidable (∀ predicate ∈ query.predicate, predicate.KeepsEqual convert))

namespace Fragment

@[simp] theorem mapValues_nil : mapValues convert [] = [] := rfl

@[simp] theorem mapValues_text (content : String) (rest : Fragment) :
    mapValues convert (.text content :: rest) = .text content :: mapValues convert rest := rfl

@[simp] theorem mapValues_slot (value : Value) (rest : Fragment) :
    mapValues convert (.slot value :: rest) = .slot (convert value) :: mapValues convert rest := rfl

@[simp] theorem mapValues_append (first second : Fragment) :
    mapValues convert (first ++ second) = mapValues convert first ++ mapValues convert second :=
  List.map_append

@[simp] theorem sql_mapValues (fragment : Fragment) : (mapValues convert fragment).sql =
    fragment.sql := by
  induction fragment with
  | nil => rfl
  | cons piece rest ih => cases piece <;> simp [ih]

@[simp] theorem values_mapValues (fragment : Fragment) : (mapValues convert fragment).values =
    fragment.values.map convert := by
  induction fragment with
  | nil => rfl
  | cons piece rest ih => cases piece <;> simp [ih]

theorem isBlank_mapValues (fragment : Fragment) :
    (mapValues convert fragment).isBlank = fragment.isBlank := by
  rw [isBlank, sql_mapValues, isBlank]

theorem mapValues_joined (separator : String) (parts : List Fragment) :
    mapValues convert (joined separator parts) =
      joined separator (parts.map (mapValues convert)) := by
  induction parts with
  | nil => rfl
  | cons first rest ih =>
      cases rest with
      | nil => rfl
      | cons second others =>
          rw [joined_cons_cons, mapValues_append, mapValues_text, ih]
          rfl

theorem mapValues_parenthesized (fragment : Fragment) :
    mapValues convert fragment.parenthesized = (mapValues convert fragment).parenthesized := by
  simp [parenthesized]

end Fragment

variable {convert}

theorem bind_map {α β γ δ : Type} {change : α → β} {after : γ → δ} {next : α → Except Error γ}
    {changedNext : β → Except Error δ} (first : Except Error α)
    (commutes : ∀ result, changedNext (change result) = (next result).map after) :
    first.map change >>= changedNext = (first >>= next).map after := by
  cases first with
  | error error => rfl
  | ok result => exact commutes result

namespace Value

theorem any_equals_map {kept : List Value} {value : Value}
    (keeps : ∀ earlier ∈ kept, earlier.equals value = (convert earlier).equals (convert value)) :
    (kept.map convert).any (·.equals (convert value)) = kept.any (·.equals value) := by
  induction kept with
  | nil => rfl
  | cons first rest ih =>
      have firstSame := keeps first List.mem_cons_self
      have restSame := ih fun earlier member => keeps earlier (List.mem_cons_of_mem first member)
      simp only [List.map_cons, List.any_cons, firstSame, restSame]

theorem distinctFrom_map (values kept : List Value) (keeps : KeepsEqual convert (kept ++ values)) :
    distinctFrom (kept.map convert) (values.map convert) =
      (distinctFrom kept values).map convert := by
  -- the kept values need the pattern too, since every later value is compared with them
  induction values generalizing kept with
  | nil => rfl
  | cons value rest ih =>
      have known : ∀ earlier ∈ kept,
          earlier.equals value = (convert earlier).equals (convert value) := by
        intro earlier member
        exact (List.pairwise_append.mp keeps).2.2 earlier member value List.mem_cons_self
      simp only [List.map_cons, distinctFrom, any_equals_map known]
      split
      · have fewer : (kept ++ rest).Sublist (kept ++ value :: rest) :=
          (List.Sublist.refl kept).append (List.sublist_cons_self value rest)
        exact ih kept (keeps.sublist fewer)
      · have regrouped : KeepsEqual convert ((kept ++ [value]) ++ rest) := by
          simpa [KeepsEqual] using keeps
        have following := ih (kept ++ [value]) regrouped
        rw [List.map_append, List.map_singleton] at following
        rw [List.map_cons, following]

theorem distinct_map {values : List Value} (keeps : KeepsEqual convert values) :
    distinct (values.map convert) = (distinct values).map convert :=
  distinctFrom_map values [] keeps

end Value

namespace Condition

theorem mapValues_comparison (column : String) (operator : Operator) (value : Value) :
    comparison column operator (convert value) =
      (comparison column operator value).mapValues convert := by
  unfold comparison
  split <;> rfl

theorem mapValues_membership (column : String) (operator : Operator) (values : List Value) :
    membership column operator (values.map convert) =
      (membership column operator values).mapValues convert := by
  simp [membership, Fragment.mapValues_joined, Function.comp_def]

theorem ofList_map {column : String} {operator : Option Operator} {values : List Value}
    (keeps : Value.KeepsEqual convert values) :
    ofList column operator (values.map convert) =
      (ofList column operator values).map (Fragment.mapValues convert) := by
  simp only [ofList, Value.distinct_map keeps]
  rcases Value.distinct values with _ | ⟨first, _ | ⟨second, rest⟩⟩
  · rfl
  · simp [mapValues_comparison, Except.map]
  · have mapped : membership column (operator.getD .within)
        (convert first :: convert second :: rest.map convert) =
        (membership column (operator.getD .within) (first :: second :: rest)).mapValues convert :=
      mapValues_membership column (operator.getD .within) (first :: second :: rest)
    simp only [List.map_cons]
    split
    · rw [mapped]
      rfl
    · rfl

theorem compile_mapValues {condition : Condition} (keeps : condition.KeepsEqual convert) :
    (condition.mapValues convert).compile =
      condition.compile.map (Fragment.mapValues convert) := by
  by_cases unnamed : condition.column = ""
  · simp [compile, mapValues, unnamed, Except.map]
  · simp only [compile, mapValues, unnamed, if_false]
    cases operand : condition.operand with
    | scalar value => simp [Operand.mapValues, mapValues_comparison, Except.map]
    | list values =>
        simp only [KeepsEqual, operand] at keeps
        exact ofList_map keeps

end Condition

namespace Predicate

theorem isGroup_mapValues (predicate : Predicate) :
    (predicate.mapValues convert).isGroup = predicate.isGroup := by
  cases predicate <;> simp [mapValues, isGroup]

mutual

theorem isEmpty_mapValues : ∀ predicate : Predicate,
    (predicate.mapValues convert).isEmpty = predicate.isEmpty
  | .condition _ => by simp [mapValues, isEmpty]
  | .group _ children => by
      rw [mapValues, isEmpty, isEmpty, allEmpty_mapChildren children]

theorem allEmpty_mapChildren : ∀ children : List Predicate,
    allEmpty (mapChildren convert children) = allEmpty children
  | [] => by simp [mapChildren]
  | child :: rest => by
      rw [mapChildren, allEmpty, allEmpty, isEmpty_mapValues child, allEmpty_mapChildren rest]

end

theorem placed_mapValues (child : Predicate) (fragment : Fragment) :
    (child.mapValues convert).placed (fragment.mapValues convert) =
      (child.placed fragment).mapValues convert := by
  simp only [placed, isGroup_mapValues]
  split
  · rw [Fragment.mapValues_parenthesized]
  · rfl

mutual

theorem compile_mapValues : ∀ predicate : Predicate, predicate.KeepsEqual convert →
    (predicate.mapValues convert).compile = predicate.compile.map (Fragment.mapValues convert)
  | .condition leaf, keeps => by
      rw [mapValues, compile, compile]
      exact Condition.compile_mapValues (keeps leaf (by simp [conditions]))
  | .group connective children, keeps => by
      rw [mapValues, compile, compile, compileChildren_mapChildren children keeps]
      apply bind_map
      intro parts
      exact congrArg Except.ok (Fragment.mapValues_joined convert _ parts).symm

theorem compileChildren_mapChildren : ∀ children : List Predicate,
    (∀ leaf ∈ childConditions children, leaf.KeepsEqual convert) →
      compileChildren (mapChildren convert children) =
        (compileChildren children).map (List.map (Fragment.mapValues convert))
  | [], _ => by simp [mapChildren, compileChildren, Except.map]
  | child :: rest, keeps => by
      simp only [childConditions, List.mem_append, or_imp, forall_and] at keeps
      have following := compileChildren_mapChildren rest keeps.2
      rw [mapChildren, compileChildren, compileChildren, isEmpty_mapValues]
      split
      · exact following
      · rw [compile_mapValues child keeps.1, following]
        apply bind_map
        intro fragment
        apply bind_map
        intro others
        rw [placed_mapValues]
        rfl

end

end Predicate

theorem Assigned.fragment_mapValue (assigned : Assigned) :
    (assigned.mapValue convert).fragment = assigned.fragment.mapValues convert := by
  cases assigned <;> rfl

namespace Query

variable (query : Query)

theorem requireValues_mapValues :
    (query.mapValues convert).requireValues = query.requireValues := by
  simp [requireValues, mapValues]

theorem insertStatement_mapValues : (query.mapValues convert).insertStatement =
    query.insertStatement.map (Fragment.mapValues convert) := by
  rw [insertStatement, insertStatement, requireValues_mapValues]
  cases query.requireValues with
  | error error => rfl
  | ok _ =>
      simp [bind, Except.bind, pure, Except.pure, Except.map, mapValues, tableName,
        Fragment.mapValues_joined, Assigned.fragment_mapValue, Function.comp_def]

theorem updateStatement_mapValues : (query.mapValues convert).updateStatement =
    query.updateStatement.map (Fragment.mapValues convert) := by
  rw [updateStatement, updateStatement, requireValues_mapValues]
  cases query.requireValues with
  | error error => rfl
  | ok _ =>
      simp [bind, Except.bind, pure, Except.pure, Except.map, mapValues, tableName,
        Fragment.mapValues_joined, Assigned.fragment_mapValue, Function.comp_def]

theorem selectStatement_mapValues (everything : String) :
    (query.mapValues convert).selectStatement everything =
      (query.selectStatement everything).map (Fragment.mapValues convert) := by
  have columns : (query.mapValues convert).outputColumns everything =
      query.outputColumns everything := rfl
  rw [selectStatement, selectStatement, columns]
  cases query.outputColumns everything <;> rfl

theorem createStatement_mapValues : (query.mapValues convert).createStatement =
    query.createStatement.map (Fragment.mapValues convert) := by
  have columns : (query.mapValues convert).columns = query.columns := rfl
  simp only [createStatement, columns]
  split <;> rfl

theorem statement_mapValues : (query.mapValues convert).statement =
    query.statement.map (Fragment.mapValues convert) := by
  have operation : (query.mapValues convert).operation = query.operation := rfl
  rw [statement, statement, operation]
  cases query.operation with
  | select => exact query.selectStatement_mapValues "*"
  | count => exact query.selectStatement_mapValues "COUNT(*)"
  | insert => exact query.insertStatement_mapValues
  | update => exact query.updateStatement_mapValues
  | delete => rfl
  | createTable => exact query.createStatement_mapValues
  | dropTable => rfl

section Compile

variable {query} (keeps : query.KeepsEqual convert)

include keeps

theorem whereClause_mapValues : (query.mapValues convert).whereClause =
    query.whereClause.map (Fragment.mapValues convert) := by
  have predicate : (query.mapValues convert).predicate =
      query.predicate.map (Predicate.mapValues convert) := rfl
  rw [whereClause, whereClause, predicate]
  cases given : query.predicate with
  | none => rfl
  | some predicate =>
      simp only [Option.map_some, Predicate.compile_mapValues predicate (keeps predicate given)]
      apply bind_map
      intro condition
      rw [Fragment.isBlank_mapValues]
      split <;> rfl

theorem compile_mapValues : (query.mapValues convert).compile =
    query.compile.map (Fragment.mapValues convert) := by
  have order : query.orderClause.mapValues convert = query.orderClause := by
    unfold orderClause
    split <;> rfl
  have limit : query.limitClause.mapValues convert = query.limitClause := by
    unfold limitClause
    split <;> rfl
  have group : query.groupClause.mapValues convert = query.groupClause := by
    unfold groupClause
    split <;> rfl
  have clauses : (query.mapValues convert).orderClause = query.orderClause ∧
      (query.mapValues convert).limitClause = query.limitClause ∧
      (query.mapValues convert).groupClause = query.groupClause := ⟨rfl, rfl, rfl⟩
  rw [compile, compile, statement_mapValues, whereClause_mapValues keeps, clauses.1,
    clauses.2.1, clauses.2.2]
  apply bind_map
  intro statement
  apply bind_map
  intro condition
  simp [Except.map, pure, Except.pure, order, limit, group]

theorem compileLogged_mapValues : (query.mapValues convert).compileLogged =
    ⟨query.compileLogged.records,
      query.compileLogged.outcome.map (Fragment.mapValues convert)⟩ := by
  have changed := compile_mapValues keeps
  cases compiled : query.compile with
  | error error =>
      rw [compiled] at changed
      rw [compileLogged_of_error compiled, compileLogged_of_error changed]
      rfl
  | ok fragment =>
      rw [compiled] at changed
      rw [compileLogged_of_ok compiled, compileLogged_of_ok changed, Fragment.values_mapValues,
        List.length_map]
      rfl

end Compile

/-- Where the lists keep their equal pairs, compilation of the changed query succeeds where that of
the query does, with the same text and the changed values, fails with the same error, and tells
the log the same. -/
theorem compile_ignores_values (query : Query) (convert : Value → Value)
    (keeps : query.KeepsEqual convert) :
    (query.mapValues convert).compileLogged.outcome.isOk = query.compileLogged.outcome.isOk ∧
      (∀ fragment, query.compileLogged.outcome = .ok fragment →
        ∃ changed, (query.mapValues convert).compileLogged.outcome = .ok changed ∧
          changed.sql = fragment.sql ∧ changed.values = fragment.values.map convert) ∧
      (∀ error, query.compileLogged.outcome = .error error →
        (query.mapValues convert).compileLogged.outcome = .error error) ∧
      (query.mapValues convert).compileLogged.records = query.compileLogged.records := by
  rw [compileLogged_mapValues keeps]
  cases query.compileLogged.outcome with
  | error error =>
      refine ⟨rfl, ?_, ?_, rfl⟩
      · intro fragment compiled
        exact absurd compiled (by simp)
      · intro other failed
        rw [Except.error.injEq] at failed
        exact congrArg Except.error failed
  | ok fragment =>
      refine ⟨rfl, ?_, ?_, rfl⟩
      · intro other compiled
        rw [Except.ok.injEq] at compiled
        subst compiled
        exact ⟨fragment.mapValues convert, rfl, fragment.sql_mapValues convert,
          fragment.values_mapValues convert⟩
      · intro error failed
        exact absurd failed (by simp)

def blurred : Value → Value
  | .int value => .int (value + 40)
  | _ => .null

def ticketUpdate : Query where
  operation := .update
  table := "tickets"
  fieldValues := [("title", .bound (.text "b")), ("seen", .raw "seen + 1")]
  predicate := some (.any [.isIn "kind" [.int 1, .int 2, .int 1], .eq "name" (.text "b")])

theorem compile_ignores_values_ticketUpdate :
    ticketUpdate.KeepsEqual blurred ∧
      ∃ fragment changed, ticketUpdate.compileLogged.outcome = .ok fragment ∧
        (ticketUpdate.mapValues blurred).compileLogged.outcome = .ok changed ∧
        changed.sql = fragment.sql ∧ changed.values = [.null, .int 41, .int 42, .null] := by
  have keeps : ticketUpdate.KeepsEqual blurred := by decide
  obtain ⟨_, same, _, _⟩ := compile_ignores_values ticketUpdate blurred keeps
  have compiled : ticketUpdate.compileLogged.outcome = .ok
      [.text "UPDATE tickets SET ", .text "title = ", .slot (.text "b"), .text ", ",
        .text "seen = ", .text "seen + 1", .text " WHERE ", .text "kind IN (", .slot (.int 1),
        .text ", ", .slot (.int 2), .text ")", .text " OR ", .text "name = ",
        .slot (.text "b")] := rfl
  obtain ⟨changed, succeeded, text, values⟩ := same _ compiled
  exact ⟨keeps, _, changed, compiled, succeeded, text, values⟩

end Query

end BoundSql
