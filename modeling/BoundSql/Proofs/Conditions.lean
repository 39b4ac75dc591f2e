import BoundSql.Predicate.Sql
import BoundSql.Proofs.Slots

/-! The conditions of a predicate, depth first and from left to right, and what its compilation
can give: one form for each kind of operand, and for a group the parts of the children that have a
condition. -/

namespace BoundSql

namespace Predicate

mutual

def conditions : Predicate → List Condition
  | .condition leaf => [leaf]
  | .group _ children => childConditions children

def childConditions : List Predicate → List Condition
  | [] => []
  | child :: rest => child.conditions ++ childConditions rest

end

def columns (predicate : Predicate) : List String :=
  predicate.conditions.map Condition.column

mutual

theorem isEmpty_iff : ∀ predicate : Predicate,
    predicate.isEmpty = true ↔ predicate.conditions = []
  | .condition leaf => by simp [isEmpty, conditions]
  | .group _ children => by
      rw [isEmpty, conditions]
      exact allEmpty_iff children

theorem allEmpty_iff : ∀ children : List Predicate,
    allEmpty children = true ↔ childConditions children = []
  | [] => by simp [allEmpty, childConditions]
  | child :: rest => by
      rw [allEmpty, childConditions, Bool.and_eq_true, List.append_eq_nil_iff,
        isEmpty_iff child, allEmpty_iff rest]

end

end Predicate

namespace Condition

def boundValues (condition : Condition) : List Value :=
  match condition.operand with
  | .scalar value => [value]
  | .list values => Value.distinct values

inductive Form (condition : Condition) : Fragment → Prop
  | scalar (value : Value) : condition.operand = .scalar value →
      Form condition (comparison condition.column (condition.operator.getD .eq) value)
  | single (values : List Value) (value : Value) : condition.operand = .list values →
      Value.distinct values = [value] →
      Form condition
        (comparison condition.column ((condition.operator.map Operator.singular).getD .eq) value)
  | several (values : List Value) (first second : Value) (rest : List Value) :
      condition.operand = .list values → Value.distinct values = first :: second :: rest →
      (condition.operator.getD .within).takesList = true →
      Form condition (membership condition.column (condition.operator.getD .within)
        (first :: second :: rest))

theorem form_of_compile {condition : Condition} {fragment : Fragment}
    (compiled : condition.compile = .ok fragment) : condition.Form fragment := by
  by_cases unnamed : condition.column = ""
  · simp [compile, unnamed] at compiled
  · simp only [compile, unnamed, if_false] at compiled
    cases operand : condition.operand with
    | scalar value =>
        simp only [operand, Except.ok.injEq] at compiled
        exact compiled ▸ Form.scalar value operand
    | list values =>
        simp only [operand, ofList] at compiled
        match distinct : Value.distinct values with
        | [] => simp [distinct] at compiled
        | [value] =>
            simp only [distinct, Except.ok.injEq] at compiled
            exact compiled ▸ Form.single values value operand distinct
        | first :: second :: rest =>
            simp only [distinct] at compiled
            split at compiled
            · rename_i takesList
              simp only [Except.ok.injEq] at compiled
              exact compiled ▸ Form.several values first second rest operand distinct takesList
            · simp at compiled

theorem comparison_sql_ne_empty (column : String) (operator : Operator) (value : Value) :
    (comparison column operator value).sql ≠ "" := by
  unfold comparison
  split <;> simp

theorem Form.sql_ne_empty {condition : Condition} {fragment : Fragment}
    (form : condition.Form fragment) : fragment.sql ≠ "" := by
  cases form with
  | scalar value _ => exact comparison_sql_ne_empty _ _ value
  | single _ value _ _ => exact comparison_sql_ne_empty _ _ value
  | several _ _ _ _ _ _ _ => simp [membership]

end Condition

namespace Predicate

theorem parts_of_compile {connective : Connective} {children : List Predicate}
    {fragment : Fragment} (compiled : compile (.group connective children) = .ok fragment) :
    ∃ parts, compileChildren children = .ok parts ∧
      fragment = Fragment.joined (" " ++ connective.sql ++ " ") parts := by
  rw [compile] at compiled
  obtain ⟨parts, found, joined⟩ := bind_eq_ok_iff.mp compiled
  exact ⟨parts, found, (Except.ok.inj joined).symm⟩

theorem part_of_compileChildren {child : Predicate} {rest : List Predicate}
    {parts : List Fragment} (compiled : compileChildren (child :: rest) = .ok parts)
    (filled : child.isEmpty = false) :
    ∃ fragment others, child.compile = .ok fragment ∧ compileChildren rest = .ok others ∧
      parts = child.placed fragment :: others := by
  simp only [compileChildren, filled, Bool.false_eq_true, if_false] at compiled
  obtain ⟨fragment, first, remaining⟩ := bind_eq_ok_iff.mp compiled
  obtain ⟨others, following, placed⟩ := bind_eq_ok_iff.mp remaining
  exact ⟨fragment, others, first, following, (Except.ok.inj placed).symm⟩

theorem compileChildren_of_isEmpty {child : Predicate} (rest : List Predicate)
    (empty : child.isEmpty = true) : compileChildren (child :: rest) = compileChildren rest := by
  simp [compileChildren, empty]

theorem compileChildren_of_allEmpty {children : List Predicate}
    (empty : allEmpty children = true) : compileChildren children = .ok [] := by
  induction children with
  | nil => rfl
  | cons child rest ih =>
      simp only [allEmpty, Bool.and_eq_true] at empty
      rw [compileChildren_of_isEmpty rest empty.1, ih empty.2]

theorem compile_of_isEmpty {predicate : Predicate} (empty : predicate.isEmpty = true) :
    predicate.compile = .ok [] := by
  cases predicate with
  | condition leaf => simp [isEmpty] at empty
  | group connective children =>
      simp [compile, compileChildren_of_allEmpty empty, Fragment.joined, bind, Except.bind, pure,
        Except.pure]

theorem placed_sql_ne_empty (child : Predicate) {fragment : Fragment} (filled : fragment.sql ≠ "") :
    (child.placed fragment).sql ≠ "" := by
  unfold placed Fragment.parenthesized
  split
  · simp
  · exact filled

mutual

theorem compile_sql_ne_empty : ∀ (predicate : Predicate) (fragment : Fragment),
    predicate.compile = .ok fragment → predicate.isEmpty = false → fragment.sql ≠ ""
  | .condition leaf, fragment, compiled, _ => by
      rw [compile] at compiled
      exact (Condition.form_of_compile compiled).sql_ne_empty
  | .group connective children, fragment, compiled, filled => by
      obtain ⟨parts, found, rfl⟩ := parts_of_compile compiled
      obtain ⟨first, rest, rfl, firstFilled⟩ := compileChildren_filled children parts found filled
      cases rest with
      | nil => exact firstFilled
      | cons second others =>
          rw [Fragment.joined_cons_cons, Fragment.sql_append]
          simp [firstFilled]

theorem compileChildren_filled : ∀ (children : List Predicate) (parts : List Fragment),
    compileChildren children = .ok parts → allEmpty children = false →
      ∃ first rest, parts = first :: rest ∧ first.sql ≠ ""
  | [], _, _, filled => by simp [allEmpty] at filled
  | child :: rest, parts, compiled, filled => by
      by_cases empty : child.isEmpty = true
      · rw [compileChildren_of_isEmpty rest empty] at compiled
        exact compileChildren_filled rest parts compiled (by simpa [allEmpty, empty] using filled)
      · simp only [Bool.not_eq_true] at empty
        obtain ⟨fragment, others, first, _, rfl⟩ := part_of_compileChildren compiled empty
        exact ⟨_, others, rfl,
          placed_sql_ne_empty child (compile_sql_ne_empty child fragment first empty)⟩

end

theorem isBlank_of_compile {predicate : Predicate} {fragment : Fragment}
    (compiled : predicate.compile = .ok fragment) : fragment.isBlank = predicate.isEmpty := by
  cases empty : predicate.isEmpty with
  | false => simpa [Fragment.isBlank] using compile_sql_ne_empty predicate fragment compiled empty
  | true =>
      rw [compile_of_isEmpty empty, Except.ok.injEq] at compiled
      subst compiled
      rfl

end Predicate

end BoundSql
