import BoundSql.Proofs.Placeholders

/-! Compilation into two buffers, one of text and one of values, both of which are only appended to.
A predicate or statement written in this way is its fragment taken apart into SQL and values. -/

namespace BoundSql

structure Buffers where
  sql : String := ""
  values : List Value := []

namespace Buffers

def write (buffers : Buffers) (text : String) : Buffers :=
  { buffers with sql := buffers.sql ++ text }

def bind (buffers : Buffers) (values : List Value) : Buffers :=
  { buffers with values := buffers.values ++ values }

def push (buffers : Buffers) (fragment : Fragment) : Buffers :=
  ⟨buffers.sql ++ fragment.sql, buffers.values ++ fragment.values⟩

variable (buffers : Buffers)

@[simp] theorem push_nil : buffers.push [] = buffers := by
  simp [push]

@[simp] theorem push_append (first second : Fragment) :
    buffers.push (first ++ second) = (buffers.push first).push second := by
  simp [push, String.append_assoc]

@[simp] theorem push_text (content : String) (rest : Fragment) :
    buffers.push (.text content :: rest) = (buffers.write content).push rest := by
  simp [push, write, String.append_assoc]

end Buffers

theorem Buffers.push_empty (fragment : Fragment) :
    push {} fragment = { sql := fragment.sql, values := fragment.values } := by
  simp [push]

namespace Assigned

theorem sql_fragment (assigned : Assigned) :
    assigned.fragment.sql = assigned.written Value.mark := by
  cases assigned <;> simp [fragment, written, Value.mark]

theorem values_fragment (assigned : Assigned) :
    assigned.fragment.values = assigned.boundValues := by
  cases assigned <;> simp [fragment, boundValues]

end Assigned

namespace Condition

def writeComparison (column : String) (operator : Option Operator) (value : Value)
    (buffers : Buffers) : Buffers :=
  let operator := operator.getD .eq
  if operator.takesList then (buffers.write s!"{column} {operator.sql} (?)").bind [value]
  else (buffers.write s!"{column} {operator.sql} ?").bind [value]

def writeList (column : String) (operator : Option Operator) (values : List Value)
    (buffers : Buffers) : Except Error Buffers :=
  match Value.distinct values with
  | [] => .error (.emptyList column)
  | [single] => .ok (writeComparison column (operator.map .singular) single buffers)
  | several =>
      let operator := operator.getD .within
      if operator.takesList then
        let marks := ", ".intercalate (List.replicate several.length "?")
        .ok ((buffers.write s!"{column} {operator.sql} ({marks})").bind several)
      else .error (.listForOneValue operator column)

def write (condition : Condition) (buffers : Buffers) : Except Error Buffers :=
  if condition.column = "" then .error .emptyColumn
  else
    match condition.operand with
    | .scalar value => .ok (writeComparison condition.column condition.operator value buffers)
    | .list values => writeList condition.column condition.operator values buffers

variable (column : String) (buffers : Buffers)

theorem writeComparison_eq (operator : Option Operator) (value : Value) :
    writeComparison column operator value buffers =
      buffers.push (comparison column (operator.getD .eq) value) := by
  simp only [writeComparison, comparison]
  split
  all_goals simp [Buffers.push, Buffers.write, Buffers.bind, toString, String.append_assoc]

theorem push_membership (operator : Operator) (values : List Value) :
    buffers.push (membership column operator values) =
      (buffers.write (column ++ " " ++ operator.sql ++ " (" ++
        ", ".intercalate (List.replicate values.length "?") ++ ")")).bind values := by
  have marks : (values.map fun value => Fragment.sql [.slot value]) =
      List.replicate values.length "?" := by
    simp [List.map_const']
  have slots : (values.flatMap fun value => Fragment.values [.slot value]) = values := by
    simp
  simp only [membership, Buffers.push, Buffers.write, Buffers.bind, Fragment.sql_text,
    Fragment.sql_append, Fragment.sql_nil, Fragment.values_text, Fragment.values_append,
    Fragment.values_nil, Fragment.sql_joined, Fragment.values_joined, List.map_map,
    List.flatMap_map, Function.comp_def, marks, slots, String.append_assoc, String.append_empty,
    List.append_nil]

theorem writeList_eq (operator : Option Operator) (values : List Value) :
    writeList column operator values buffers = buffers.push <$> ofList column operator values := by
  unfold writeList ofList
  match Value.distinct values with
  | [] => rfl
  | [single] =>
      simp only [writeComparison_eq]
      rfl
  | first :: second :: rest =>
      dsimp only
      split
      · simp only [Functor.map, Except.map, push_membership]
        rfl
      · rfl

theorem write_eq (condition : Condition) :
    condition.write buffers = buffers.push <$> condition.compile := by
  unfold write compile
  split
  · rfl
  · cases condition.operand with
    | scalar value =>
        simp only [writeComparison_eq]
        rfl
    | list values => exact writeList_eq condition.column buffers condition.operator values

end Condition

namespace Predicate

def enclosed (grouped : Bool) (write : Buffers → Except Error Buffers) (buffers : Buffers) :
    Except Error Buffers :=
  if grouped then do
    let inner ← write (buffers.write "(")
    return inner.write ")"
  else write buffers

mutual

def write : Predicate → Buffers → Except Error Buffers
  | .condition leaf, buffers => leaf.write buffers
  | .group connective children, buffers => writeChildren connective true children buffers

/-- The loop over the children; `first` tells whether none of them has been written yet. -/
def writeChildren (connective : Connective) (first : Bool) :
    List Predicate → Buffers → Except Error Buffers
  | [], buffers => .ok buffers
  | child :: rest, buffers =>
      if child.isEmpty then writeChildren connective first rest buffers
      else do
        let buffers :=
          if first then buffers else ((buffers.write " ").write connective.sql).write " "
        let buffers ← enclosed child.isGroup child.write buffers
        writeChildren connective false rest buffers

end

def following (connective : Connective) (first : Bool) (parts : List Fragment) : Fragment :=
  let separator := " " ++ connective.sql ++ " "
  if first || parts.isEmpty then Fragment.joined separator parts
  else .text separator :: Fragment.joined separator parts

section Following

variable (connective : Connective) (part : Fragment) (rest : List Fragment) (buffers : Buffers)

theorem following_true_cons : following connective true (part :: rest) =
    part ++ following connective false rest := by
  cases rest <;> simp [following, Fragment.joined]

theorem following_false_cons : following connective false (part :: rest) =
    .text (" " ++ connective.sql ++ " ") :: (part ++ following connective false rest) := by
  rw [← following_true_cons]
  rfl

theorem push_following (first : Bool) : buffers.push (following connective first (part :: rest)) =
    (((if first then buffers else ((buffers.write " ").write connective.sql).write " ").push
      part).push (following connective false rest)) := by
  cases first with
  | true => rw [following_true_cons, Buffers.push_append, if_pos rfl]
  | false =>
      rw [following_false_cons, Buffers.push_text, Buffers.push_append]
      simp [Buffers.write, String.append_assoc]

end Following

theorem push_parenthesized (buffers : Buffers) (fragment : Fragment) :
    buffers.push fragment.parenthesized = ((buffers.write "(").push fragment).write ")" := by
  simp [Fragment.parenthesized, Buffers.push_append]

theorem enclosed_eq {child : Predicate}
    (written : ∀ buffers, child.write buffers = buffers.push <$> child.compile)
    (buffers : Buffers) : enclosed child.isGroup child.write buffers =
      (fun fragment => buffers.push (child.placed fragment)) <$> child.compile := by
  unfold enclosed placed
  split
  · rw [written]
    cases child.compile with
    | error error => rfl
    | ok fragment => exact congrArg Except.ok (push_parenthesized buffers fragment).symm
  · exact written buffers

mutual

theorem write_eq : ∀ (predicate : Predicate) (buffers : Buffers),
    predicate.write buffers = buffers.push <$> predicate.compile
  | .condition leaf, buffers => leaf.write_eq buffers
  | .group connective children, buffers => by
      rw [write, compile, writeChildren_eq connective true children buffers]
      cases compileChildren children <;> rfl

theorem writeChildren_eq (connective : Connective) : ∀ (first : Bool) (children : List Predicate)
    (buffers : Buffers), writeChildren connective first children buffers =
      (fun parts => buffers.push (following connective first parts)) <$> compileChildren children
  | first, [], buffers => by
      simp [writeChildren, compileChildren, following, Fragment.joined, Functor.map, Except.map]
  | first, child :: rest, buffers => by
      by_cases empty : child.isEmpty = true
      · rw [writeChildren, compileChildren, if_pos empty, if_pos empty,
          writeChildren_eq connective first rest buffers]
      · rw [writeChildren, compileChildren, if_neg empty, if_neg empty]
        simp only [enclosed_eq (write_eq child), writeChildren_eq connective false rest]
        cases child.compile with
        | error error => rfl
        | ok fragment =>
            cases compileChildren rest with
            | error error => rfl
            | ok parts => exact congrArg Except.ok (push_following ..).symm

end

end Predicate

namespace Query

variable (query : Query) (buffers : Buffers)

def writeInsert : Except Error Buffers := do
  query.requireValues
  let names := ", ".intercalate (query.fieldValues.map Prod.fst)
  let slots := ", ".intercalate (query.fieldValues.map fun field => field.2.written Value.mark)
  return {
    sql := s!"INSERT INTO {query.tableName} ({names}) VALUES ({slots})"
    values := query.fieldValues.flatMap fun field => field.2.boundValues }

def writeUpdate : Except Error Buffers := do
  query.requireValues
  let assignments := ", ".intercalate
    (query.fieldValues.map fun field => field.1 ++ " = " ++ field.2.written Value.mark)
  return {
    sql := s!"UPDATE {query.tableName} SET {assignments}"
    values := query.fieldValues.flatMap fun field => field.2.boundValues }

def writeStatement : Except Error Buffers :=
  match query.operation with
  | .insert => query.writeInsert
  | .update => query.writeUpdate
  | _ => do
      -- The other statements bind no value.
      let statement ← query.statement
      return { sql := statement.sql }

def writeWhere : Except Error Buffers :=
  match query.predicate with
  | none => .ok buffers
  | some predicate => do
      let condition ← predicate.write {}
      return if condition.sql = "" then buffers
        else ((buffers.write " WHERE ").write condition.sql).bind condition.values

def writeOrder : Buffers :=
  if query.orderBy = [] then buffers
  else (buffers.write " ORDER BY ").write (OrderBy.listSql query.orderBy)

def writeLimit : Buffers :=
  match query.limit with
  | none => buffers
  | some limit => (buffers.write " LIMIT ").write limit.sql

def writeGroup : Buffers :=
  match query.groupBy with
  | none => buffers
  | some column => (buffers.write " GROUP BY ").write column

def write : Except Error Buffers := do
  let buffers ← query.writeStatement
  let buffers ← query.writeWhere buffers
  return query.writeGroup (query.writeLimit (query.writeOrder buffers))

theorem writeInsert_eq : query.writeInsert = Buffers.push {} <$> query.insertStatement := by
  unfold writeInsert insertStatement
  cases query.requireValues with
  | error error => rfl
  | ok _ =>
      apply congrArg Except.ok
      rw [Buffers.push_empty]
      simp [Fragment.sql_joined, Fragment.values_joined, Function.comp_def, Assigned.sql_fragment,
        Assigned.values_fragment, List.flatMap_map, String.append_assoc, toString]

theorem writeUpdate_eq : query.writeUpdate = Buffers.push {} <$> query.updateStatement := by
  unfold writeUpdate updateStatement
  cases query.requireValues with
  | error error => rfl
  | ok _ =>
      apply congrArg Except.ok
      rw [Buffers.push_empty]
      simp [Fragment.sql_joined, Fragment.values_joined, Function.comp_def, Assigned.sql_fragment,
        Assigned.values_fragment, List.flatMap_map, String.append_assoc, toString]

theorem values_of_statement {query : Query} {fragment : Fragment}
    (compiled : query.statement = .ok fragment) (noInsert : query.operation ≠ .insert)
    (noUpdate : query.operation ≠ .update) : fragment.values = [] := by
  cases operation : query.operation with
  | insert => exact absurd operation noInsert
  | update => exact absurd operation noUpdate
  | select =>
      simp only [statement, operation] at compiled
      rw [fragment_of_select compiled]
      rfl
  | count =>
      simp only [statement, operation] at compiled
      rw [fragment_of_select compiled]
      rfl
  | createTable =>
      simp only [statement, operation] at compiled
      rw [fragment_of_create compiled]
      rfl
  | delete =>
      simp only [statement, operation, Except.ok.injEq] at compiled
      rw [← compiled]
      rfl
  | dropTable =>
      simp only [statement, operation, Except.ok.injEq] at compiled
      rw [← compiled]
      rfl

theorem writeStatement_eq : query.writeStatement = Buffers.push {} <$> query.statement := by
  unfold writeStatement
  split
  · rename_i operation
    rw [writeInsert_eq, statement, operation]
  · rename_i operation
    rw [writeUpdate_eq, statement, operation]
  · rename_i noInsert noUpdate
    cases compiled : query.statement with
    | error error => rfl
    | ok fragment =>
        apply congrArg Except.ok
        rw [Buffers.push_empty, values_of_statement compiled noInsert noUpdate]

theorem writeWhere_eq : query.writeWhere buffers = buffers.push <$> query.whereClause := by
  unfold writeWhere whereClause
  cases query.predicate with
  | none => simp [Functor.map, Except.map]
  | some predicate =>
      simp only [Predicate.write_eq]
      cases predicate.compile with
      | error error => rfl
      | ok condition =>
          apply congrArg Except.ok
          simp only [Buffers.push_empty, Fragment.isBlank, beq_iff_eq]
          split
          · rw [Buffers.push_nil]
          · simp [Buffers.push, Buffers.write, Buffers.bind, String.append_assoc]

theorem writeOrder_eq : query.writeOrder buffers = buffers.push query.orderClause := by
  unfold writeOrder orderClause
  split <;> simp [Fragment.ofText, Buffers.write, String.append_assoc]

theorem writeLimit_eq : query.writeLimit buffers = buffers.push query.limitClause := by
  unfold writeLimit limitClause
  cases query.limit <;> simp [Fragment.ofText, Buffers.write, String.append_assoc]

theorem writeGroup_eq : query.writeGroup buffers = buffers.push query.groupClause := by
  unfold writeGroup groupClause
  cases query.groupBy <;> simp [Fragment.ofText, Buffers.write, String.append_assoc]

/-- The two buffers end as the SQL and the values of the fragment that the query compiles to, or
with the same error. -/
theorem write_eq : query.write =
    (fun fragment => { sql := fragment.sql, values := fragment.values }) <$> query.compile := by
  unfold write compile
  rw [writeStatement_eq]
  cases query.statement with
  | error error => rfl
  | ok statement =>
      simp only [writeWhere_eq, writeOrder_eq, writeLimit_eq, writeGroup_eq]
      cases query.whereClause with
      | error error => rfl
      | ok condition =>
          apply congrArg Except.ok
          simp only [← Buffers.push_append]
          exact Buffers.push_empty _

end Query

end BoundSql
