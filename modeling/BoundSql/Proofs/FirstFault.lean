import BoundSql.Proofs.Earliest
import BoundSql.Proofs.FirstOccurrence
import BoundSql.Proofs.Statements

/-! What makes a query fail. A query may not fit its operation, whatever its predicate is; if it
fits, the first faulty condition of the predicate is the error, and if there is none it compiles. -/

namespace BoundSql

theorem ok_iff_not_error {α : Type} {outcome : Except Error α} :
    (∃ result, outcome = .ok result) ↔ ¬∃ error, outcome = .error error := by
  cases outcome <;> simp

theorem Value.distinct_eq_nil_iff {values : List Value} : distinct values = [] ↔ values = [] := by
  cases values <;> simp [distinct, distinctFrom]

namespace Condition

/-- What is wrong with a condition. An empty column comes before a fault of the operand. -/
inductive Fault (condition : Condition) : Error → Prop
  | unnamed : condition.column = "" → Fault condition .emptyColumn
  | noValue : condition.column ≠ "" → condition.operand = .list [] →
      Fault condition (.emptyList condition.column)
  | severalValues (values : List Value) (operator : Operator) : condition.column ≠ "" →
      condition.operand = .list values → condition.operator = some operator →
      operator ≠ .within → operator ≠ .notWithin → Value.Several values →
      Fault condition (.listForOneValue operator condition.column)

theorem Fault.category {condition : Condition} {error : Error} (fault : condition.Fault error) :
    error.category = .malformedPredicate := by
  cases fault <;> rfl

theorem takesList_eq_false_iff (operator : Operator) :
    operator.takesList = false ↔ operator ≠ .within ∧ operator ≠ .notWithin := by
  cases operator <;> decide

section OnList

variable {condition : Condition} {values : List Value} {error : Error}
variable (named : condition.column ≠ "") (operand : condition.operand = .list values)
include named operand

theorem fault_list_iff : condition.Fault error ↔
    (values = [] ∧ error = .emptyList condition.column) ∨
      ∃ operator, condition.operator = some operator ∧ operator.takesList = false ∧
        Value.Several values ∧ error = .listForOneValue operator condition.column := by
  constructor
  · intro fault
    cases fault with
    | unnamed empty => exact absurd empty named
    | noValue _ given =>
        rw [operand, Operand.list.injEq] at given
        exact .inl ⟨given, rfl⟩
    | severalValues others operator _ given written notIn notOut several =>
        rw [operand, Operand.list.injEq] at given
        have single := (takesList_eq_false_iff operator).mpr ⟨notIn, notOut⟩
        exact .inr ⟨operator, written, single, given ▸ several, rfl⟩
  · rintro (⟨rfl, rfl⟩ | ⟨operator, written, single, several, rfl⟩)
    · exact .noValue named operand
    · obtain ⟨notIn, notOut⟩ := (takesList_eq_false_iff operator).mp single
      exact .severalValues values operator named operand written notIn notOut several

theorem ofList_error_iff :
    ofList condition.column condition.operator values = .error error ↔ condition.Fault error := by
  rw [fault_list_iff named operand, Value.several_iff, ← Value.distinct_eq_nil_iff, ofList]
  rcases Value.distinct values with _ | ⟨first, _ | ⟨second, rest⟩⟩
  · simp [eq_comm (a := error)]
  · simp
  · cases condition.operator with
    | none => simp [Operator.takesList]
    | some operator => cases takes : operator.takesList <;> simp [takes, eq_comm (a := error)]

end OnList

theorem compile_error_iff {condition : Condition} {error : Error} :
    condition.compile = .error error ↔ condition.Fault error := by
  by_cases unnamed : condition.column = ""
  · simp only [compile, unnamed, if_true, Except.error.injEq]
    constructor
    · rintro rfl
      exact .unnamed unnamed
    · intro fault
      cases fault with
      | unnamed _ => rfl
      | noValue named _ => exact absurd unnamed named
      | severalValues _ _ named _ _ _ _ _ => exact absurd unnamed named
  · simp only [compile, unnamed, if_false]
    cases operand : condition.operand with
    | scalar value =>
        simp only [reduceCtorEq, false_iff]
        intro fault
        cases fault with
        | unnamed empty => exact unnamed empty
        | noValue _ given => simp [operand] at given
        | severalValues _ _ _ given _ _ _ _ => simp [operand] at given
    | list values => exact ofList_error_iff unnamed operand

def Faulty (condition : Condition) : Prop := ∃ error, condition.Fault error

def FirstFault (conditions : List Condition) (error : Error) : Prop :=
  ∃ before condition after, conditions = before ++ condition :: after ∧
    (∀ earlier ∈ before, ¬earlier.Faulty) ∧ condition.Fault error

theorem FirstFault.category {conditions : List Condition} {error : Error}
    (first : FirstFault conditions error) : error.category = .malformedPredicate := by
  obtain ⟨_, _, _, _, _, fault⟩ := first
  exact fault.category

theorem not_firstFault_nil (error : Error) : ¬FirstFault [] error :=
  not_earliest_nil error

theorem firstFault_cons_iff {first : Condition} {rest : List Condition} {error : Error} :
    FirstFault (first :: rest) error ↔
      first.Fault error ∨ ¬first.Faulty ∧ FirstFault rest error :=
  earliest_cons_iff

theorem exists_firstFault_iff {conditions : List Condition} :
    (∃ error, FirstFault conditions error) ↔ ∃ condition ∈ conditions, condition.Faulty :=
  exists_earliest_iff

theorem firstFault_append_iff {first second : List Condition} {error : Error} :
    FirstFault (first ++ second) error ↔
      FirstFault first error ∨ (¬∃ cause, FirstFault first cause) ∧ FirstFault second error :=
  earliest_append_iff

end Condition

namespace Predicate

open Condition (FirstFault firstFault_cons_iff firstFault_append_iff not_firstFault_nil)

mutual

theorem compile_error_iff : ∀ (predicate : Predicate) (error : Error),
    predicate.compile = .error error ↔ FirstFault predicate.conditions error
  | .condition leaf, error => by
      rw [compile, conditions, Condition.compile_error_iff, firstFault_cons_iff]
      simp [not_firstFault_nil]
  | .group connective children, error => by
      rw [compile, conditions, bind_eq_error_iff, compileChildren_error_iff children error]
      simp [pure, Except.pure]

theorem compileChildren_error_iff : ∀ (children : List Predicate) (error : Error),
    compileChildren children = .error error ↔ FirstFault (childConditions children) error
  | [], error => by simp [compileChildren, childConditions, not_firstFault_nil]
  | child :: rest, error => by
      have following := compileChildren_error_iff rest error
      rw [childConditions, firstFault_append_iff, ← following]
      -- A child that is passed over has no condition, so none of its conditions is at fault.
      by_cases empty : child.isEmpty = true
      · rw [compileChildren_of_isEmpty rest empty, (isEmpty_iff child).mp empty]
        simp [not_firstFault_nil]
      · have sound : (∃ fragment, child.compile = .ok fragment) ↔
            ¬∃ cause, FirstFault child.conditions cause := by
          rw [ok_iff_not_error]
          simp only [compile_error_iff child]
        simp only [compileChildren, empty, Bool.false_eq_true, if_false]
        rw [both_eq_error_iff, compile_error_iff child error, sound]

end

end Predicate

namespace Query

inductive Misfit (query : Query) : Error → Prop
  | definitionsAsColumns (entries : List ColumnEntry) :
      query.operation = .select ∨ query.operation = .count →
      query.columns = .definitions entries →
      Misfit query (.definitionsAsColumns query.operation query.table)
  | noFieldValues : query.operation = .insert ∨ query.operation = .update →
      query.fieldValues = [] → Misfit query (.noFieldValues query.operation query.table)
  | noColumnDefinitions : query.operation = .createTable →
      (∀ entry entries, query.columns ≠ .definitions (entry :: entries)) →
      Misfit query (.noColumnDefinitions query.table)

theorem Misfit.category {query : Query} {error : Error} (misfit : query.Misfit error) :
    error.category = .malformedQuery := by
  cases misfit <;> rfl

def conditions (query : Query) : List Condition :=
  match query.predicate with
  | some predicate => predicate.conditions
  | none => []

variable {query : Query} {error : Error}

theorem selectStatement_error_iff {everything : String}
    (reads : query.operation = .select ∨ query.operation = .count) :
    query.selectStatement everything = .error error ↔ query.Misfit error := by
  have columns : query.selectStatement everything = .error error ↔
      query.outputColumns everything = .error error := by
    simp [selectStatement, bind_eq_error_iff, pure, Except.pure]
  rw [columns]
  constructor
  · intro failed
    simp only [outputColumns] at failed
    split at failed
    case h_5 entries given =>
      rw [Except.error.injEq] at failed
      exact failed ▸ .definitionsAsColumns entries reads given
    all_goals simp at failed
  · intro misfit
    cases misfit with
    | definitionsAsColumns entries _ given => simp [outputColumns, given]
    | noFieldValues writes _ => rcases reads with same | same <;> simp [same] at writes
    | noColumnDefinitions creates _ => rcases reads with same | same <;> simp [same] at creates

theorem requireValues_error_iff (writes : query.operation = .insert ∨ query.operation = .update) :
    query.requireValues = .error error ↔ query.Misfit error := by
  constructor
  · intro failed
    simp only [requireValues] at failed
    split at failed
    · rename_i unset
      rw [Except.error.injEq] at failed
      exact failed ▸ .noFieldValues writes unset
    · simp at failed
  · intro misfit
    cases misfit with
    | definitionsAsColumns _ reads _ => rcases writes with same | same <;> simp [same] at reads
    | noFieldValues _ unset => simp [requireValues, unset]
    | noColumnDefinitions creates _ => rcases writes with same | same <;> simp [same] at creates

theorem createStatement_error_iff (creates : query.operation = .createTable) :
    query.createStatement = .error error ↔ query.Misfit error := by
  constructor
  · intro failed
    simp only [createStatement] at failed
    split at failed
    · simp at failed
    · rename_i undefined
      rw [Except.error.injEq] at failed
      exact failed ▸ .noColumnDefinitions creates undefined
  · intro misfit
    cases misfit with
    | definitionsAsColumns _ reads _ => simp [creates] at reads
    | noFieldValues writes _ => simp [creates] at writes
    | noColumnDefinitions _ undefined =>
        cases given : query.columns with
        | definitions entries =>
            cases entries with
            | nil => simp [createStatement, given]
            | cons first rest => exact absurd given (undefined first rest)
        | _ => simp [createStatement, given]

theorem statement_error_iff : query.statement = .error error ↔ query.Misfit error := by
  cases operation : query.operation with
  | select =>
      simp only [statement, operation]
      exact selectStatement_error_iff (.inl operation)
  | count =>
      simp only [statement, operation]
      exact selectStatement_error_iff (.inr operation)
  | insert =>
      rw [← requireValues_error_iff (.inl operation)]
      simp [statement, operation, insertStatement, bind_eq_error_iff, pure, Except.pure]
  | update =>
      rw [← requireValues_error_iff (.inr operation)]
      simp [statement, operation, updateStatement, bind_eq_error_iff, pure, Except.pure]
  | createTable =>
      simp only [statement, operation]
      exact createStatement_error_iff operation
  | delete =>
      simp only [statement, operation, reduceCtorEq, false_iff]
      intro misfit
      cases misfit <;> simp_all
  | dropTable =>
      simp only [statement, operation, reduceCtorEq, false_iff]
      intro misfit
      cases misfit <;> simp_all

theorem whereClause_error_iff :
    query.whereClause = .error error ↔ Condition.FirstFault query.conditions error := by
  cases given : query.predicate with
  | none => simp [whereClause, conditions, given, Condition.not_firstFault_nil]
  | some predicate =>
      simp only [whereClause, conditions, given]
      rw [bind_eq_error_iff, Predicate.compile_error_iff]
      simp [pure, Except.pure]

theorem compile_error_iff : query.compile = .error error ↔
    query.Misfit error ∨
      (¬∃ cause, query.Misfit cause) ∧ Condition.FirstFault query.conditions error := by
  have fits : (∃ statement, query.statement = .ok statement) ↔ ¬∃ cause, query.Misfit cause := by
    rw [ok_iff_not_error]
    simp only [statement_error_iff]
  rw [compile, bind_eq_error_iff, statement_error_iff, ← fits]
  simp only [bind_eq_error_iff, whereClause_error_iff, pure, Except.pure, reduceCtorEq, and_false,
    exists_false, or_false, exists_and_right]

/-- A query that does not fit its operation is malformed whatever its predicate is. Any other query
fails exactly if its predicate has a faulty condition, with the fault of the first one, and there
is no further way to fail. -/
theorem compile_fails_at_first_cause (query : Query) :
    ((∃ error, query.compile = .error error ∧ error.category = .malformedQuery) ↔
      ∃ error, query.Misfit error) ∧
    ((∃ error, query.compile = .error error ∧ error.category = .malformedPredicate) ↔
      (¬∃ error, query.Misfit error) ∧ ∃ condition ∈ query.conditions, condition.Faulty) ∧
    (∀ error, query.compile = .error error ↔ query.Misfit error ∨
      (¬∃ cause, query.Misfit cause) ∧ Condition.FirstFault query.conditions error) ∧
    ((∃ fragment, query.compile = .ok fragment) ↔
      (¬∃ error, query.Misfit error) ∧ ∀ condition ∈ query.conditions, ¬condition.Faulty) ∧
    ∀ error, query.compile = .error error →
      (error.category = .malformedQuery ∨ error.category = .malformedPredicate) ∧
        error.isCompile = true := by
  refine ⟨?_, ?_, fun error => compile_error_iff, ?_, ?_⟩
  · constructor
    · rintro ⟨error, failed, category⟩
      rcases compile_error_iff.mp failed with misfit | ⟨_, first⟩
      · exact ⟨error, misfit⟩
      · simp [first.category] at category
    · rintro ⟨error, misfit⟩
      exact ⟨error, compile_error_iff.mpr (.inl misfit), misfit.category⟩
  · rw [← Condition.exists_firstFault_iff]
    constructor
    · rintro ⟨error, failed, category⟩
      rcases compile_error_iff.mp failed with misfit | ⟨fits, first⟩
      · simp [misfit.category] at category
      · exact ⟨fits, error, first⟩
    · rintro ⟨fits, error, first⟩
      exact ⟨error, compile_error_iff.mpr (.inr ⟨fits, first⟩), first.category⟩
  · have sound : (∀ condition ∈ query.conditions, ¬condition.Faulty) ↔
        ¬∃ error, Condition.FirstFault query.conditions error := by
      rw [Condition.exists_firstFault_iff]
      simp
    rw [ok_iff_not_error, sound]
    simp only [compile_error_iff]
    constructor
    · intro compiles
      have fits : ¬∃ error, query.Misfit error := fun ⟨error, misfit⟩ =>
        compiles ⟨error, .inl misfit⟩
      exact ⟨fits, fun ⟨error, first⟩ => compiles ⟨error, .inr ⟨fits, first⟩⟩⟩
    · rintro ⟨fits, sound⟩ ⟨error, misfit | ⟨_, first⟩⟩
      · exact fits ⟨error, misfit⟩
      · exact sound ⟨error, first⟩
  · intro error failed
    rcases compile_error_iff.mp failed with misfit | ⟨_, first⟩
    · simp [Error.isCompile, misfit.category, Category.isCompile]
    · simp [Error.isCompile, first.category, Category.isCompile]

def readings : Query where
  operation := .select
  table := "readings"
  predicate := some (.all [.any [], .compare "level" .lt (.list [.int 1, .int 1]),
    .any [.all [], .compare "level" .gt (.list [.double .nan, .double .nan])],
    .eq "" (.int 1)])

theorem compile_fails_at_first_cause_readings :
    readings.compile = .error (.listForOneValue .gt "level") ∧
      Error.isCompile (.listForOneValue .gt "level") = true := by
  have fits : ¬∃ error, readings.Misfit error := by
    rintro ⟨error, misfit⟩
    cases misfit with
    | definitionsAsColumns _ _ given => simp [readings] at given
    | noFieldValues writes _ => simp [readings] at writes
    | noColumnDefinitions creates _ => simp [readings] at creates
  have first : Condition.FirstFault readings.conditions (.listForOneValue .gt "level") := by
    refine ⟨[⟨"level", some .lt, .list [.int 1, .int 1]⟩], _, _, rfl, ?_, ?_⟩
    · simp only [List.mem_singleton, forall_eq]
      rintro ⟨error, fault⟩
      cases fault with
      | unnamed empty => simp at empty
      | noValue _ given => simp at given
      | severalValues values operator _ given _ _ _ several =>
          obtain rfl : [Value.int 1, Value.int 1] = values := by simpa using given
          exact absurd (Value.several_iff.mp several) (by decide)
    · exact .severalValues [.double .nan, .double .nan] .gt (by decide) rfl rfl (by decide)
        (by decide) (Value.several_iff.mpr (by decide))
  have failed := ((compile_fails_at_first_cause readings).2.2.1 _).mpr (.inr ⟨fits, first⟩)
  exact ⟨failed, ((compile_fails_at_first_cause readings).2.2.2.2 _ failed).2⟩

end Query

end BoundSql
