import BoundSql.Proofs.NormalForm
import BoundSql.Proofs.StatementClauses

/-! Statements over data are unambiguous. With plain names for tables and columns, the text and the
values of a compiled query tell everything about it that reaches the statement at all. -/

namespace BoundSql

namespace Query

def reads (query : Query) : Bool := query.operation = .select || query.operation = .count

def assigns (query : Query) : Bool := query.operation = .insert || query.operation = .update

/-- What a statement says: of a query's description, what has a place in its text and values. -/
@[ext]
structure Content where
  kind : Operation
  columns : List String
  table : String
  joins : List (String × String)
  assignments : List (String × Assigned)
  condition : Option Predicate
  orderBy : List OrderBy
  limit : Option Limit
  groupBy : Option String

def kind (query : Query) : Operation :=
  if query.operation = .count ∧ query.listedColumns ≠ [] then .select else query.operation

def normalCondition (query : Query) : Option Predicate :=
  match query.predicate with
  | none => none
  | some predicate => if predicate.isEmpty then none else some predicate.normalRoot

def readColumns (query : Query) : List String :=
  if query.reads then query.listedColumns else []

def readJoins (query : Query) : List (String × String) :=
  if query.reads then query.joins.map fun join => (query.tablePrefix ++ join.table, join.on) else []

def assignments (query : Query) : List (String × Assigned) :=
  if query.assigns then query.fieldValues else []

def content (query : Query) : Content where
  kind := query.kind
  columns := query.readColumns
  table := query.tableName
  joins := query.readJoins
  assignments := query.assignments
  condition := query.normalCondition
  orderBy := query.orderBy
  limit := query.limit
  groupBy := query.groupBy

section Recovery

open Token

variable {first second : Query}

theorem map_eq_of_determines {α β γ : Type} {image otherImage : α → β}
    {result otherResult : α → γ} {items others : List α}
    (determines : ∀ item ∈ items, ∀ other ∈ others, image item = otherImage other →
      result item = otherResult other)
    (same : items.map image = others.map otherImage) :
    items.map result = others.map otherResult := by
  induction items generalizing others with
  | nil =>
      have none : others = [] := by simpa using same.symm
      simp [none]
  | cons item rest ih =>
      cases others with
      | nil => simp at same
      | cons other more =>
          simp only [List.map_cons, List.cons.injEq] at same
          simp only [List.forall_mem_cons] at determines
          rw [List.map_cons, List.map_cons, determines.1.1 same.1,
            ih (fun item member => (determines.2 item member).2) same.2]

theorem orderBy_eq (same : first.orderClauses = second.orderClauses) :
    first.orderBy = second.orderBy := by
  have directions : ∀ direction other : Direction,
      direction.sql = other.sql → direction = other := by
    intro direction other
    cases direction <;> cases other <;> decide
  have determined : ∀ order other : OrderBy, [Token.word order.column, .word order.direction.sql] =
      [.word other.column, .word other.direction.sql] → order = other := by
    rintro ⟨column, direction⟩ ⟨otherColumn, otherDirection⟩ same
    simp only [List.cons.injEq, Token.word.injEq, and_true] at same
    rw [same.1, directions _ _ same.2]
  by_cases unordered : first.orderBy = [] <;> by_cases otherUnordered : second.orderBy = []
  · rw [unordered, otherUnordered]
  · simp [orderClauses, unordered, otherUnordered] at same
  · simp [orderClauses, unordered, otherUnordered] at same
  · simp only [orderClauses, unordered, otherUnordered, if_false, List.cons.injEq, Clause.mk.injEq,
      true_and, and_true] at same
    have orders := map_eq_of_listed (by simp) unordered otherUnordered same
    exact (List.map_inj_right determined).mp orders

theorem limitTokens_inj {limit other : Limit} (same : limitTokens limit = limitTokens other) :
    limit = other := by
  have rows : ∀ count others : UInt64, count.toNat.repr = others.toNat.repr → count = others :=
    fun count others same => UInt64.toNat_inj.mp (Text.toString_inj same)
  cases limit with
  | count first =>
      cases other with
      | count second =>
          simp only [limitTokens, List.cons.injEq, Token.word.injEq, and_true] at same
          rw [rows first second same]
      | range _ _ => simp [limitTokens] at same
  | range skipped first =>
      cases other with
      | count _ => simp [limitTokens] at same
      | range others second =>
          simp only [limitTokens, List.cons.injEq, Token.word.injEq, and_true, true_and] at same
          rw [rows skipped others same.1, rows first second same.2]

theorem limit_eq (same : first.limitClauses = second.limitClauses) :
    first.limit = second.limit := by
  cases given : first.limit with
  | none =>
      cases other : second.limit with
      | none => rfl
      | some _ => simp [limitClauses, given, other] at same
  | some limit =>
      cases other : second.limit with
      | none => simp [limitClauses, given, other] at same
      | some _ =>
          simp only [limitClauses, given, other, List.cons.injEq, Clause.mk.injEq, true_and,
            and_true] at same
          rw [limitTokens_inj same]

theorem groupBy_eq (same : first.groupClauses = second.groupClauses) :
    first.groupBy = second.groupBy := by
  cases given : first.groupBy with
  | none =>
      cases other : second.groupBy with
      | none => rfl
      | some _ => simp [groupClauses, given, other] at same
  | some column =>
      cases other : second.groupBy with
      | none => simp [groupClauses, given, other] at same
      | some _ =>
          simp only [groupClauses, given, other, List.cons.injEq, Clause.mk.injEq,
            Token.word.injEq, true_and, and_true] at same
          rw [same]

theorem outputTokens_eq {everything otherEverything : List Token}
    (star : .other '*' ∈ everything) (otherStar : .other '*' ∈ otherEverything)
    (same : first.outputTokens everything = second.outputTokens otherEverything) :
    first.listedColumns = second.listedColumns ∧
      (first.listedColumns = [] → everything = otherEverything) := by
  -- a star stands for all columns in both statements, and in no list of names
  have starless : ∀ names : List String,
      .other '*' ∉ listed (names.map fun name => [Token.word name]) := by
    intro names member
    have different : ∀ token ∈ listed (names.map fun name => [Token.word name]),
        token ≠ .other '*' := forall_mem_intercalate (by simp) (by simp)
    exact different (.other '*') member rfl
  by_cases all : first.listedColumns = [] <;> by_cases otherAll : second.listedColumns = []
  · simp only [outputTokens, all, otherAll, if_true] at same
    exact ⟨by rw [all, otherAll], fun _ => same⟩
  · simp only [outputTokens, all, otherAll, if_true, if_false] at same
    exact absurd (same ▸ star) (starless _)
  · simp only [outputTokens, all, otherAll, if_true, if_false] at same
    exact absurd (same ▸ otherStar) (starless _)
  · simp only [outputTokens, all, otherAll, if_false] at same
    have names := map_eq_of_listed (by simp) all otherAll same
    exact ⟨(List.map_inj_right (by simp)).mp names, fun none => absurd none all⟩

theorem joins_eq (plain : first.Plain) (otherPlain : second.Plain)
    (same : first.joins.map first.joinClause = second.joins.map second.joinClause) :
    first.joins.map (fun join => (first.tablePrefix ++ join.table, join.on)) =
      second.joins.map fun join => (second.tablePrefix ++ join.table, join.on) := by
  refine map_eq_of_determines ?_ same
  intro join member other otherMember equal
  obtain ⟨left, right, _, _, on, tokens⟩ := Join.ofText_on (plain.joins join member)
  obtain ⟨otherLeft, otherRight, _, _, otherOn, otherTokens⟩ :=
    Join.ofText_on (otherPlain.joins other otherMember)
  simp only [joinClause, tokens, otherTokens, Clause.mk.injEq, List.cons.injEq, Token.word.injEq,
    true_and, and_true] at equal
  rw [equal.1, on, otherOn, equal.2.1, equal.2.2]

theorem fields_eq {fields others : List (String × Assigned)} {rest more : List Value}
    (names : fields.map Prod.fst = others.map Prod.fst)
    (slots : fields.map (fun field => field.2.slot) = others.map fun field => field.2.slot)
    (values : fields.flatMap (fun field => field.2.boundValues) ++ rest =
      others.flatMap (fun field => field.2.boundValues) ++ more) :
    fields = others ∧ rest = more := by
  -- `rest` and `more` stay as they are: the values of later clauses, where no field is left
  induction fields generalizing others with
  | nil =>
      have none : others = [] := by simpa using names.symm
      subst none
      exact ⟨rfl, values⟩
  | cons field tail ih =>
      cases others with
      | nil => simp at names
      | cons other otherTail =>
          obtain ⟨name, assigned⟩ := field
          obtain ⟨otherName, otherAssigned⟩ := other
          simp only [List.map_cons, List.cons.injEq] at names slots
          obtain ⟨rfl, tailNames⟩ := names
          obtain ⟨slot, tailSlots⟩ := slots
          simp only [List.flatMap_cons, List.append_assoc] at values
          cases assigned with
          | bound value =>
              cases otherAssigned with
              | bound otherValue =>
                  simp only [Assigned.boundValues, List.singleton_append, List.cons.injEq] at values
                  obtain ⟨tails, rests⟩ := ih tailNames tailSlots values.2
                  exact ⟨by rw [values.1, tails], rests⟩
              | raw otherSql => simp [Assigned.slot] at slot
          | raw sql =>
              cases otherAssigned with
              | bound otherValue => simp [Assigned.slot] at slot
              | raw otherSql =>
                  simp only [Assigned.slot, Token.word.injEq] at slot
                  simp only [Assigned.boundValues, List.nil_append] at values
                  obtain ⟨tails, rests⟩ := ih tailNames tailSlots values
                  exact ⟨by rw [slot, tails], rests⟩

def everythingTokens : Operation → List Token
  | .count => [.word "COUNT", .opening, .other '*', .closing]
  | _ => [.other '*']

theorem operationClauses_of_reads {query : Query} (reads : query.reads = true) :
    query.operationClauses = query.readClauses (everythingTokens query.operation) := by
  cases operation : query.operation <;>
    simp [operationClauses, operation, everythingTokens, Query.reads] at reads ⊢

def leadingKeyword : Operation → Option String
  | .select => some "SELECT"
  | .count => some "SELECT"
  | .insert => some "INSERT"
  | .update => some "UPDATE"
  | .delete => some "DELETE"
  | .createTable => none
  | .dropTable => none

theorem operationClauses_head (query : Query) :
    query.operationClauses.head?.map Clause.keyword = leadingKeyword query.operation := by
  cases operation : query.operation <;>
    simp [operationClauses, operation, leadingKeyword, readClauses]

theorem operations_agree (plain : first.Plain) (otherPlain : second.Plain)
    (same : first.operationClauses = second.operationClauses) :
    first.operation = second.operation ∨ first.reads = true ∧ second.reads = true := by
  have keyword : leadingKeyword first.operation = leadingKeyword second.operation := by
    rw [← operationClauses_head, same, operationClauses_head]
  -- the two operations without a leading keyword are not among those over data
  have data := plain.operation
  have otherData := otherPlain.operation
  cases operation : first.operation <;> cases otherOperation : second.operation <;>
    simp_all [leadingKeyword, Query.reads]

theorem kind_eq_of_reads (reads : first.reads = true) (otherReads : second.reads = true)
    (columns : first.listedColumns = second.listedColumns)
    (everything : first.listedColumns = [] →
      everythingTokens first.operation = everythingTokens second.operation) :
    first.kind = second.kind := by
  rw [kind, kind, ← columns]
  by_cases all : first.listedColumns = []
  · have same := everything all
    cases operation : first.operation <;> cases other : second.operation <;>
      simp_all [Query.reads, everythingTokens]
  · cases operation : first.operation <;> cases other : second.operation <;>
      simp_all [Query.reads]

theorem fieldValues_ne_nil {query : Query} {fragment : Fragment}
    (compiled : query.compile = .ok fragment) (assigns : query.assigns = true) :
    query.fieldValues ≠ [] := by
  intro none
  obtain ⟨statement, _, body, _, _⟩ := parts_of_compile compiled
  cases operation : query.operation <;>
    simp [Query.statement, operation, Query.assigns, insertStatement, updateStatement,
      requireValues, none, bind, Except.bind] at assigns body

theorem condition_cases {query : Query} {fragment : Fragment}
    (compiled : query.compile = .ok fragment) (plain : query.Plain) :
    (query.whereClauses = [] ∧ query.normalCondition = none) ∨
      ∃ (predicate : Predicate) (condition : Fragment), predicate.compile = .ok condition ∧
        predicate.isEmpty = false ∧ (∀ column ∈ predicate.columns, isPlainName column = true) ∧
        query.whereClauses = [⟨"WHERE", ofText condition.sql⟩] ∧
        query.conditionValues = condition.values ∧
        query.normalCondition = some predicate.normalRoot := by
  cases given : query.predicate with
  | none => exact .inl ⟨by simp [whereClauses, given], by simp [normalCondition, given]⟩
  | some predicate =>
      cases empty : predicate.isEmpty with
      | true =>
          exact .inl ⟨by simp [whereClauses, given, empty], by simp [normalCondition, given, empty]⟩
      | false =>
          obtain ⟨_, _, _, conditional, _⟩ := parts_of_compile compiled
          obtain ⟨condition, found, _⟩ := condition_of_whereClause given conditional
          have renders := predicate.compile_renders condition found
          have columns := plain.conditions predicate given
          refine .inr ⟨predicate, condition, found, empty, columns, ?_, ?_, ?_⟩
          · rw [Fragment.sql_eq_written, renders.written_eq]
            simp [whereClauses, given, empty]
          · simp [conditionValues, given, renders.values_eq]
          · simp [normalCondition, given, empty]

theorem normalCondition_eq (plain : first.Plain) (otherPlain : second.Plain) {left right : Fragment}
    (compiled : first.compile = .ok left) (otherCompiled : second.compile = .ok right)
    (same : first.whereClauses = second.whereClauses)
    (values : first.conditionValues = second.conditionValues) :
    first.normalCondition = second.normalCondition := by
  rcases condition_cases compiled plain with
    ⟨clauses, normal⟩ | ⟨predicate, condition, found, filled, columns, clauses, bound, normal⟩ <;>
  rcases condition_cases otherCompiled otherPlain with
    ⟨otherClauses, otherNormal⟩ |
    ⟨other, otherCondition, otherFound, otherFilled, otherColumns, otherClauses, otherBound,
      otherNormal⟩
  · rw [normal, otherNormal]
  · simp [clauses, otherClauses] at same
  · simp [clauses, otherClauses] at same
  · rw [clauses, otherClauses] at same
    have tokens : ofText condition.sql = ofText otherCondition.sql := by simpa using same
    rw [bound, otherBound] at values
    rw [normal, otherNormal, Predicate.normalRoot_eq_of_compile found otherFound filled otherFilled
      columns otherColumns tokens values]

/-- Queries whose operations say the same, up to the values that they assign. -/
structure SameOutline (first second : Query) : Prop where
  kind : first.kind = second.kind
  columns : first.readColumns = second.readColumns
  table : first.tableName = second.tableName
  joins : first.readJoins = second.readJoins
  names : first.assignments.map Prod.fst = second.assignments.map Prod.fst
  slots : first.assignments.map (fun field => field.2.slot) =
    second.assignments.map fun field => field.2.slot

theorem assigns_of_reads {query : Query} (reads : query.reads = true) : query.assigns = false := by
  cases operation : query.operation <;> simp_all [Query.reads, Query.assigns]

theorem sameOutline_of_reads (plain : first.Plain) (otherPlain : second.Plain)
    (reads : first.reads = true) (otherReads : second.reads = true)
    (same : first.operationClauses = second.operationClauses) : first.SameOutline second := by
  have star : ∀ operation, .other '*' ∈ everythingTokens operation := by
    intro operation
    cases operation <;> decide
  rw [operationClauses_of_reads reads, operationClauses_of_reads otherReads] at same
  simp only [readClauses, List.cons.injEq, Clause.mk.injEq, Token.word.injEq, true_and,
    and_true] at same
  obtain ⟨output, table, joins⟩ := same
  obtain ⟨columns, everything⟩ := outputTokens_eq (star _) (star _) output
  have unassigned : first.assignments = second.assignments := by
    simp [assignments, assigns_of_reads reads, assigns_of_reads otherReads]
  constructor
  · exact kind_eq_of_reads reads otherReads columns everything
  · simp [readColumns, reads, otherReads, columns]
  · exact table
  · simp only [readJoins, reads, otherReads, if_true]
    exact joins_eq plain otherPlain joins
  · rw [unassigned]
  · rw [unassigned]

theorem sameOutline_of_operation (operation : first.operation = second.operation)
    (unread : first.reads = false) (table : first.tableName = second.tableName)
    (names : first.assignments.map Prod.fst = second.assignments.map Prod.fst)
    (slots : first.assignments.map (fun field => field.2.slot) =
      second.assignments.map fun field => field.2.slot) : first.SameOutline second := by
  have otherUnread : second.reads = false := by rw [← unread, Query.reads, Query.reads, operation]
  have kinds : ∀ query : Query, query.reads = false → query.kind = query.operation := by
    intro query unread
    have uncounted : query.operation ≠ .count := by
      intro count
      simp [Query.reads, count] at unread
    simp [Query.kind, uncounted]
  refine ⟨?_, ?_, table, ?_, names, slots⟩
  · rw [kinds first unread, kinds second otherUnread, operation]
  · simp [readColumns, unread, otherUnread]
  · simp [readJoins, unread, otherUnread]

theorem slot_ne_comma (assigned : Assigned) : Token.comma ≠ assigned.slot := by
  cases assigned <;> simp [Assigned.slot]

theorem insert_fields (operation : first.operation = .insert)
    (otherOperation : second.operation = .insert) (filled : first.fieldValues ≠ [])
    (otherFilled : second.fieldValues ≠ [])
    (same : first.operationClauses = second.operationClauses) :
    first.tableName = second.tableName ∧
      first.fieldValues.map Prod.fst = second.fieldValues.map Prod.fst ∧
      first.fieldValues.map (fun field => field.2.slot) =
        second.fieldValues.map fun field => field.2.slot := by
  simp only [operationClauses, operation, otherOperation, List.cons.injEq, Clause.mk.injEq,
    Token.word.injEq, List.append_cancel_right_eq, true_and, and_true] at same
  obtain ⟨⟨table, names⟩, slots⟩ := same
  have nameTokens := map_eq_of_listed (by simp) filled otherFilled names
  have slotTokens := map_eq_of_listed (by simp [slot_ne_comma]) filled otherFilled slots
  exact ⟨table, map_eq_of_determines (by simp) nameTokens,
    map_eq_of_determines (by simp) slotTokens⟩

theorem update_fields (operation : first.operation = .update)
    (otherOperation : second.operation = .update) (filled : first.fieldValues ≠ [])
    (otherFilled : second.fieldValues ≠ [])
    (same : first.operationClauses = second.operationClauses) :
    first.tableName = second.tableName ∧
      first.fieldValues.map Prod.fst = second.fieldValues.map Prod.fst ∧
      first.fieldValues.map (fun field => field.2.slot) =
        second.fieldValues.map fun field => field.2.slot := by
  simp only [operationClauses, operation, otherOperation, List.cons.injEq, Clause.mk.injEq,
    Token.word.injEq, true_and, and_true] at same
  obtain ⟨table, assigned⟩ := same
  have tokens := map_eq_of_listed (by simp [slot_ne_comma]) filled otherFilled assigned
  refine ⟨table, map_eq_of_determines ?_ tokens, map_eq_of_determines ?_ tokens⟩
  · intro field _ other _ equal
    simp only [List.cons.injEq, Token.word.injEq] at equal
    exact equal.1
  · intro field _ other _ equal
    simp only [List.cons.injEq, true_and, and_true] at equal
    exact equal.2

theorem sameOutline_of_assigns (agree : first.operation = second.operation)
    (assigns : first.assigns = true) (table : first.tableName = second.tableName)
    (names : first.fieldValues.map Prod.fst = second.fieldValues.map Prod.fst)
    (slots : first.fieldValues.map (fun field => field.2.slot) =
      second.fieldValues.map fun field => field.2.slot) : first.SameOutline second := by
  have otherAssigns : second.assigns = true := by
    rw [← assigns, Query.assigns, Query.assigns, agree]
  have unread : first.reads = false := by
    cases reads : first.reads with
    | false => rfl
    | true => simp [assigns_of_reads reads] at assigns
  apply sameOutline_of_operation agree unread table
  · simpa only [assignments, assigns, otherAssigns, if_true] using names
  · simpa only [assignments, assigns, otherAssigns, if_true] using slots

theorem sameOutline (plain : first.Plain) (otherPlain : second.Plain)
    (filled : first.assigns = true → first.fieldValues ≠ [])
    (otherFilled : second.assigns = true → second.fieldValues ≠ [])
    (same : first.operationClauses = second.operationClauses) : first.SameOutline second := by
  rcases operations_agree plain otherPlain same with agree | ⟨reads, otherReads⟩
  · cases operation : first.operation with
    | select =>
        exact sameOutline_of_reads plain otherPlain (by simp [Query.reads, operation])
          (by simp [Query.reads, ← agree, operation]) same
    | count =>
        exact sameOutline_of_reads plain otherPlain (by simp [Query.reads, operation])
          (by simp [Query.reads, ← agree, operation]) same
    | insert =>
        have assigns : first.assigns = true := by simp [Query.assigns, operation]
        have otherAssigns : second.assigns = true := by simp [Query.assigns, ← agree, operation]
        obtain ⟨table, names, slots⟩ := insert_fields operation (by rw [← agree, operation])
          (filled assigns) (otherFilled otherAssigns) same
        exact sameOutline_of_assigns agree assigns table names slots
    | update =>
        have assigns : first.assigns = true := by simp [Query.assigns, operation]
        have otherAssigns : second.assigns = true := by simp [Query.assigns, ← agree, operation]
        obtain ⟨table, names, slots⟩ := update_fields operation (by rw [← agree, operation])
          (filled assigns) (otherFilled otherAssigns) same
        exact sameOutline_of_assigns agree assigns table names slots
    | delete =>
        have table : first.tableName = second.tableName := by
          simpa [operationClauses, operation, ← agree] using same
        have unassigned : first.assignments = second.assignments := by
          simp [assignments, Query.assigns, operation, ← agree]
        exact sameOutline_of_operation agree (by simp [Query.reads, operation]) table
          (by rw [unassigned]) (by rw [unassigned])
    | createTable => exact absurd operation plain.operation.1
    | dropTable => exact absurd operation plain.operation.2
  · exact sameOutline_of_reads plain otherPlain reads otherReads same

theorem assignedValues_eq (query : Query) :
    query.assignedValues = query.assignments.flatMap fun field => field.2.boundValues := by
  cases operation : query.operation <;>
    simp [assignedValues, assignments, Query.assigns, operation]

end Recovery

/-- Statements with the same text and values say the same, their conditions in normal form. -/
theorem content_eq_of_compile (first second : Query) (left right : Fragment)
    (plain : first.Plain) (otherPlain : second.Plain) (compiled : first.compile = .ok left)
    (otherCompiled : second.compile = .ok right) (sql : left.sql = right.sql)
    (values : left.values = right.values) : first.content = second.content := by
  obtain ⟨operations, conditions, orders, limits, groups⟩ := parts_of_clauses plain otherPlain
    (clauses_eq_of_sql plain otherPlain compiled otherCompiled sql)
  have outline := sameOutline plain otherPlain (fieldValues_ne_nil compiled)
    (fieldValues_ne_nil otherCompiled) operations
  rw [(compile_renders compiled).values_eq, (compile_renders otherCompiled).values_eq,
    assignedValues_eq, assignedValues_eq] at values
  obtain ⟨assigned, bound⟩ := fields_eq outline.names outline.slots values
  apply Content.ext
  · exact outline.kind
  · exact outline.columns
  · exact outline.table
  · exact outline.joins
  · exact assigned
  · exact normalCondition_eq plain otherPlain compiled otherCompiled conditions bound
  · exact orderBy_eq orders
  · exact limit_eq limits
  · exact groupBy_eq groups

def visitCount : Query where
  operation := .count
  table := "visits"
  tablePrefix := "zoo_"
  columns := .list ["day", "guides.name"]
  predicate := some (.all [.any [], .any [.isIn "gate" [.int 2, .int 2]],
    .compare "day" .gt (.scalar (.int 9))])
  orderBy := [⟨"day", .descending⟩]
  limit := some (.range 5 10)
  joins := [⟨.left, "guides", "guide = guides.id"⟩]

def visitSelect : Query where
  operation := .select
  table := "zoo_visits"
  columns := .list ["day", "guides.name"]
  predicate := some (.all [.all [.compare "gate" .eq (.scalar (.int 2))], .all [.all []],
    .compare "day" .gt (.list [.int 9])])
  orderBy := [⟨"day", .descending⟩]
  limit := some (.range 5 10)
  joins := [⟨.left, "zoo_guides", "guide = guides.id"⟩]

def visitFragment : Fragment :=
  [.text ("SELECT day, guides.name FROM zoo_visits " ++
    "LEFT JOIN zoo_guides ON guide = guides.id"), .text " WHERE ", .text "(", .text "gate = ",
    .slot (.int 2), .text ")", .text " AND ", .text "day > ", .slot (.int 9),
    .text " ORDER BY day DESC", .text " LIMIT 5, 10"]

theorem visitCount_plain : visitCount.Plain where
  operation := by decide
  table := by decide
  columns := by decide
  listed := by decide
  fields := by decide
  raws := by decide
  conditions := by decide
  joinTables := by decide
  joins := by simpa [visitCount] using ⟨"guide", "guides.id", by decide⟩
  orderBy := by decide
  groupBy := by decide

theorem visitSelect_plain : visitSelect.Plain where
  operation := by decide
  table := by decide
  columns := by decide
  listed := by decide
  fields := by decide
  raws := by decide
  conditions := by decide
  joinTables := by decide
  joins := by simpa [visitSelect] using ⟨"guide", "guides.id", by decide⟩
  orderBy := by decide
  groupBy := by decide

theorem content_eq_of_compile_visits :
    visitCount.compile = .ok visitFragment ∧ visitSelect.compile = .ok visitFragment ∧
      visitCount.Plain ∧ visitSelect.Plain ∧ visitCount.content = visitSelect.content := by
  have compiled : visitCount.compile = .ok visitFragment := rfl
  have otherCompiled : visitSelect.compile = .ok visitFragment := rfl
  exact ⟨compiled, otherCompiled, visitCount_plain, visitSelect_plain,
    content_eq_of_compile visitCount visitSelect visitFragment visitFragment visitCount_plain
      visitSelect_plain compiled otherCompiled rfl rfl⟩

end Query

end BoundSql
