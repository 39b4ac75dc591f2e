import BoundSql.Proofs.Assignment
import BoundSql.Proofs.FirstFault
import BoundSql.Proofs.Placeholders

/-! Predicates joined by a connective. The operands of a group of this connective are its children,
and the left operand is always taken in as its operands. The right one is taken in only by a group
on the left, so the nesting of three operands can show in the tree. It shows neither in what is
wrong with the joined predicate, nor in its values or its truth. -/

namespace BoundSql

namespace Predicate

def joinedBy (connective : Connective) : Predicate → Bool
  | .group own _ => decide (own = connective)
  | .condition _ => false

/-- The operands that the predicate stands for: the children of a group of this connective, and
anything else itself. -/
def operands (connective : Connective) : Predicate → List Predicate
  | .group own children => if own = connective then children else [.group own children]
  | .condition leaf => [.condition leaf]

section Shape

variable {connective : Connective}

@[simp] theorem joinedBy_group (children : List Predicate) :
    (group connective children).joinedBy connective = true := by simp [joinedBy]

@[simp] theorem operands_group (children : List Predicate) :
    (group connective children).operands connective = children := by simp [operands]

theorem eq_group_of_joinedBy {predicate : Predicate}
    (joined : predicate.joinedBy connective = true) :
    predicate = .group connective (predicate.operands connective) := by
  cases predicate with
  | condition leaf => simp [joinedBy] at joined
  | group own children =>
      simp only [joinedBy, decide_eq_true_eq] at joined
      simp [operands, joined]

theorem operands_of_not_joinedBy {predicate : Predicate}
    (apart : predicate.joinedBy connective = false) :
    predicate.operands connective = [predicate] := by
  cases predicate with
  | condition leaf => rfl
  | group own children =>
      simp only [joinedBy, decide_eq_false_iff_not] at apart
      simp [operands, apart]

theorem operands_eq_singleton_iff (predicate : Predicate) :
    predicate.operands connective = [predicate] ↔ predicate.joinedBy connective = false := by
  constructor
  · intro alone
    cases joined : predicate.joinedBy connective with
    | false => rfl
    | true =>
        -- A group is no child of its own.
        have same := eq_group_of_joinedBy joined
        rw [alone] at same
        have size := congrArg sizeOf same
        simp only [group.sizeOf_spec, List.cons.sizeOf_spec, List.nil.sizeOf_spec] at size
        omega
  · exact operands_of_not_joinedBy

theorem combine_eq (left right : Predicate) :
    left.combine connective right = .group connective (left.operands connective ++
      if left.joinedBy connective then right.operands connective else [right]) := by
  cases left with
  | condition leaf => simp [combine, joinedBy, operands]
  | group own children =>
      by_cases same : own = connective
      · cases right with
        | condition leaf => simp [combine, joinedBy, operands, same]
        | group other others =>
            by_cases alike : other = connective <;>
              simp [combine, joinedBy, operands, same, alike]
      · simp [combine, joinedBy, operands, same]

theorem combine_eq_operands_iff (left right : Predicate) :
    left.combine connective right =
        .group connective (left.operands connective ++ right.operands connective) ↔
      left.joinedBy connective = true ∨ right.joinedBy connective = false := by
  rw [combine_eq, group.injEq, List.append_cancel_left_eq]
  cases joined : left.joinedBy connective with
  | true => simp
  | false =>
      have alone : [right] = right.operands connective ↔ right.joinedBy connective = false :=
        eq_comm.trans (operands_eq_singleton_iff right)
      simp [alone]

/-- The nesting does not show if the middle operand is a group of the connective and the left one is
too or the right one is empty, or if only the left one is such a group. -/
theorem combine_assoc_iff (first second third : Predicate) :
    (first.combine connective second).combine connective third =
        first.combine connective (second.combine connective third) ↔
      if first.joinedBy connective then
        second.joinedBy connective = true ∨ third.joinedBy connective = false
      else second.joinedBy connective = true ∧ third.operands connective = [] := by
  simp only [combine_eq, joinedBy_group, operands_group, if_true, group.injEq, true_and,
    List.append_assoc, List.append_cancel_left_eq]
  cases front : first.joinedBy connective with
  | true =>
      cases middle : second.joinedBy connective with
      | true => simp
      | false =>
          simp [operands_of_not_joinedBy middle, operands_eq_singleton_iff]
  | false =>
      cases middle : second.joinedBy connective with
      | true =>
          have same := eq_group_of_joinedBy middle
          simp only [Bool.false_eq_true, if_false, if_true, List.cons_append, List.nil_append,
            List.cons.injEq, true_and]
          constructor
          · exact fun both => both.2
          · intro empty
            rw [empty, List.append_nil]
            exact ⟨same, rfl⟩
      | false =>
          simp only [Bool.false_eq_true, if_false, List.cons_append, List.nil_append,
            List.cons.injEq, false_and, iff_false]
          rintro ⟨same, _⟩
          rw [same, joinedBy_group] at middle
          simp at middle

end Shape

theorem childConditions_append (left right : List Predicate) :
    childConditions (left ++ right) = childConditions left ++ childConditions right := by
  induction left with
  | nil => rfl
  | cons child rest ih => simp [childConditions, ih]

section Joined

variable (connective : Connective)

theorem childConditions_operands (predicate : Predicate) :
    childConditions (predicate.operands connective) = predicate.conditions := by
  cases joined : predicate.joinedBy connective with
  | true =>
      rw [eq_group_of_joinedBy joined, operands_group, conditions]
  | false => simp [operands_of_not_joinedBy joined, childConditions]

theorem conditions_combine (left right : Predicate) :
    (left.combine connective right).conditions = left.conditions ++ right.conditions := by
  rw [combine_eq, conditions, childConditions_append, childConditions_operands]
  split
  · rw [childConditions_operands]
  · simp [childConditions]

variable (assignment : Assignment)

theorem under?_eq (predicate : Predicate) :
    predicate.expression.under? assignment =
      if predicate.isEmpty then none else some (predicate.factor.under assignment) := by
  cases predicate with
  | condition leaf =>
      simp [expression, Expression.under?, isEmpty, factor, alternativesUnder, factorsUnder]
  | group own children =>
      cases empty : allEmpty children with
      | true =>
          simp [expression, childFactors_of_allEmpty empty, Connective.expression,
            Expression.under?, isEmpty, empty]
      | false =>
          have filled := own.expression_ne_nil (childFactors_ne_nil empty)
          simp only [expression, Expression.under?_of_filled assignment filled, isEmpty, empty,
            Bool.false_eq_true, if_false, factor, Factor.under]

theorem under?_group (children : List Predicate) :
    (group connective children).expression.under? assignment =
      connective.join? (children.map fun child => child.expression.under? assignment) := by
  have truths : (children.map fun child => child.expression.under? assignment).filterMap id =
      (childFactors children).map (Factor.under assignment) := by
    induction children with
    | nil => rfl
    | cons child rest ih =>
        cases empty : child.isEmpty <;> simp [childFactors, under?_eq, empty] at ih ⊢ <;> exact ih
  rw [Connective.join?, truths, expression]
  cases factors : childFactors children with
  | nil => rfl
  | cons first rest =>
      have filled : first :: rest ≠ [] := by simp
      rw [Expression.under?_of_filled assignment (connective.expression_ne_nil filled),
        connective.under_expression assignment filled]
      rfl

theorem join?_operands (predicate : Predicate) :
    connective.join? ((predicate.operands connective).map fun child =>
      child.expression.under? assignment) = predicate.expression.under? assignment := by
  cases joined : predicate.joinedBy connective with
  | true =>
      have same := eq_group_of_joinedBy joined
      rw [← under?_group, ← same]
  | false => simp [operands_of_not_joinedBy joined, Connective.join?_singleton]

theorem under?_combine (left right : Predicate) :
    (left.combine connective right).expression.under? assignment =
      Option.merge connective.apply (left.expression.under? assignment)
        (right.expression.under? assignment) := by
  rw [combine_eq, under?_group, List.map_append, Connective.join?_append, join?_operands]
  split
  · rw [join?_operands]
  · rw [List.map_singleton, Connective.join?_singleton]

end Joined

theorem compile_values {predicate : Predicate} {fragment : Fragment}
    (compiled : predicate.compile = .ok fragment) : fragment.values = predicate.boundValues :=
  (compile_renders predicate fragment compiled).values_eq

/-- The two predicates fail with the same error or bind the same values, and what is read from the
SQL and values of the one is as true as what is read from those of the other. -/
structure Agree (left right : Predicate) : Prop where
  fails : ∀ error, left.compile = .error error ↔ right.compile = .error error
  binds : ∀ fragment other, left.compile = .ok fragment → right.compile = .ok other →
    fragment.values = other.values
  reads : ∀ fragment other, left.compile = .ok fragment → right.compile = .ok other →
    (∀ column ∈ left.columns, Token.isPlainName column = true) →
    ∃ expression same, Expression.read fragment.sql fragment.values = some (expression, []) ∧
      Expression.read other.sql other.values = some (same, []) ∧
      ∀ assignment : Assignment, expression.under? assignment = same.under? assignment

theorem agree_of_conditions {left right : Predicate} (same : left.conditions = right.conditions)
    (truth : ∀ assignment,
      left.expression.under? assignment = right.expression.under? assignment) :
    left.Agree right where
  fails := fun error => by rw [compile_error_iff, compile_error_iff, same]
  binds := fun fragment other compiled following => by
    rw [compile_values compiled, compile_values following, boundValues, boundValues, same]
  reads := fun fragment other compiled following plain => by
    have plainOther : ∀ column ∈ right.columns, Token.isPlainName column = true := by
      rw [columns, ← same]
      exact plain
    exact ⟨left.expression, right.expression, read_of_compile compiled plain,
      read_of_compile following plainOther, truth⟩

theorem combine_assoc_agree (connective : Connective) (first second third : Predicate) :
    ((first.combine connective second).combine connective third).Agree
      (first.combine connective (second.combine connective third)) := by
  apply agree_of_conditions
  · simp only [conditions_combine, List.append_assoc]
  · intro assignment
    simp only [under?_combine, Connective.merge_assoc]

/-- Joining takes in the operands of the left predicate, and those of the right one just if the left
one is a group of the connective. Where the right one stays a group inside a group the nesting of
three operands shows in the tree, but the two ways to nest them still agree. -/
theorem combine_takes_in_operands (connective : Connective) (first second third : Predicate) :
    first.combine connective second = .group connective (first.operands connective ++
      if first.joinedBy connective then second.operands connective else [second]) ∧
    (first.combine connective second =
        .group connective (first.operands connective ++ second.operands connective) ↔
      first.joinedBy connective = true ∨ second.joinedBy connective = false) ∧
    ((first.combine connective second).combine connective third =
        first.combine connective (second.combine connective third) ↔
      if first.joinedBy connective then
        second.joinedBy connective = true ∨ third.joinedBy connective = false
      else second.joinedBy connective = true ∧ third.operands connective = []) ∧
    ((first.combine connective second).combine connective third).Agree
      (first.combine connective (second.combine connective third)) :=
  ⟨combine_eq first second, combine_eq_operands_iff first second,
    combine_assoc_iff first second third, combine_assoc_agree connective first second third⟩

/-- A group on the right of a single condition is not taken in, so that three conditions compile to
different texts, whichever connective joins them. -/
theorem right_group_stays_nested :
    (eq "row" .null).combine .and (all [eq "seat" .null, eq "day" .null]) ≠
      all ((eq "row" .null).operands .and ++
        (all [eq "seat" .null, eq "day" .null]).operands .and) ∧
    (∃ left right,
      (((eq "row" .null).combine .and (eq "seat" .null)).combine .and (eq "day" .null)).compile =
        .ok left ∧
      ((eq "row" .null).combine .and ((eq "seat" .null).combine .and (eq "day" .null))).compile =
        .ok right ∧
      left.sql = "row = ? AND seat = ? AND day = ?" ∧
      right.sql = "row = ? AND (seat = ? AND day = ?)") ∧
    ∃ left right,
      (((eq "row" .null).combine .or (eq "seat" .null)).combine .or (eq "day" .null)).compile =
        .ok left ∧
      ((eq "row" .null).combine .or ((eq "seat" .null).combine .or (eq "day" .null))).compile =
        .ok right ∧
      left.sql = "row = ? OR seat = ? OR day = ?" ∧
      right.sql = "row = ? OR (seat = ? OR day = ?)" := by
  refine ⟨?_, ⟨_, _, rfl, rfl, by decide, by decide⟩, _, _, rfl, rfl, by decide, by decide⟩
  intro same
  exact absurd ((combine_eq_operands_iff _ _).mp same) (by decide)

end Predicate

end BoundSql
