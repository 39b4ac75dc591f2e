import BoundSql.Proofs.Assignment

/-! The meaning of predicates in three-valued logic, and that compilation keeps it. A list of
values means all of its values, duplicates included, and a group means its connective over the
children that have a condition. -/

namespace BoundSql

/-- The comparison cannot tell equal values apart. -/
def Comparison.Respects (compare : Comparison) : Prop :=
  ∀ column operator left right, Value.equals left right = true →
    compare column operator left = compare column operator right

namespace Truth

theorem any_eq (parts : List Truth) :
    any parts = if .yes ∈ parts then .yes else if .unknown ∈ parts then .unknown else .no := by
  induction parts with
  | nil => rfl
  | cons first rest ih =>
      have step : any (first :: rest) = first.or (any rest) := rfl
      rw [step, ih]
      by_cases yes : .yes ∈ rest
      · cases first <;> simp [yes, or]
      · by_cases unknown : .unknown ∈ rest
        · cases first <;> simp [yes, unknown, or]
        · cases first <;> simp [yes, unknown, or]

theorem all_eq (parts : List Truth) :
    all parts = if .no ∈ parts then .no else if .unknown ∈ parts then .unknown else .yes := by
  induction parts with
  | nil => rfl
  | cons first rest ih =>
      have step : all (first :: rest) = first.and (all rest) := rfl
      rw [step, ih]
      by_cases no : .no ∈ rest
      · cases first <;> simp [no, and]
      · by_cases unknown : .unknown ∈ rest
        · cases first <;> simp [no, unknown, and]
        · cases first <;> simp [no, unknown, and]

theorem any_congr {left right : List Truth} (same : ∀ part, part ∈ left ↔ part ∈ right) :
    any left = any right := by
  simp only [any_eq, same]

theorem all_congr {left right : List Truth} (same : ∀ part, part ∈ left ↔ part ∈ right) :
    all left = all right := by
  simp only [all_eq, same]

end Truth

namespace Value

theorem mem_of_mem_distinctFrom {value : Value} (values kept : List Value)
    (member : value ∈ distinctFrom kept values) : value ∈ values := by
  induction values generalizing kept with
  | nil => simp [distinctFrom] at member
  | cons first rest ih =>
      simp only [distinctFrom] at member
      split at member
      · exact List.mem_cons_of_mem first (ih kept member)
      · rcases List.mem_cons.mp member with same | later
        · exact same ▸ List.mem_cons_self
        · exact List.mem_cons_of_mem first (ih _ later)

theorem kept_of_mem {value : Value} (values kept : List Value) (member : value ∈ values) :
    value ∈ distinctFrom kept values ∨
      ∃ earlier ∈ kept ++ distinctFrom kept values, earlier.equals value = true := by
  induction values generalizing kept with
  | nil => simp at member
  | cons first rest ih =>
      by_cases present : kept.any (·.equals first) = true
      · simp only [distinctFrom, present, if_true]
        rcases List.mem_cons.mp member with same | later
        · obtain ⟨earlier, earlierKept, equal⟩ := List.any_eq_true.mp present
          exact Or.inr ⟨earlier, List.mem_append_left _ earlierKept, same ▸ equal⟩
        · exact ih kept later
      · simp only [distinctFrom, present]
        rcases List.mem_cons.mp member with same | later
        · exact Or.inl (same ▸ List.mem_cons_self)
        · rcases ih (kept ++ [first]) later with found | ⟨earlier, earlierKept, equal⟩
          · exact Or.inl (List.mem_cons_of_mem first found)
          · refine Or.inr ⟨earlier, ?_, equal⟩
            simpa [List.append_assoc] using earlierKept

theorem mem_map_distinct {α : Type} {convert : Value → α} {values : List Value}
    (respects : ∀ left right, left.equals right = true → convert left = convert right) (image : α) :
    image ∈ (distinct values).map convert ↔ image ∈ values.map convert := by
  simp only [List.mem_map]
  constructor
  · rintro ⟨value, member, same⟩
    exact ⟨value, mem_of_mem_distinctFrom values [] member, same⟩
  · rintro ⟨value, member, rfl⟩
    rcases kept_of_mem values [] member with found | ⟨earlier, found, equal⟩
    · exact ⟨value, found, rfl⟩
    · exact ⟨earlier, found, respects earlier value equal⟩

theorem head_of_distinct {values : List Value} {single : Value}
    (distinct : Value.distinct values = [single]) : values.head? = some single := by
  cases values with
  | nil => simp [Value.distinct, distinctFrom] at distinct
  | cons first rest =>
      simp only [Value.distinct, distinctFrom, List.any_nil, Bool.false_eq_true, if_false,
        List.cons.injEq] at distinct
      simp [distinct.1]

end Value

def Operand.values : Operand → List Value
  | .scalar value => [value]
  | .list values => values

def Operand.defaultOperator : Operand → Operator
  | .scalar _ => .eq
  | .list _ => .within

/-- A column against values: IN holds for one of them, NOT IN for all of them, and any other
operator compares with the first. -/
def Operator.truth (compare : Comparison) (column : String) (values : List Value) :
    Operator → Truth
  | .within => Truth.any (values.map (compare column .eq))
  | .notWithin => Truth.all (values.map (compare column .ne))
  | operator => (values.head?.map (compare column operator)).getD .unknown

def Condition.truth (compare : Comparison) (condition : Condition) : Truth :=
  (condition.operator.getD condition.operand.defaultOperator).truth compare condition.column
    condition.operand.values

namespace Predicate

mutual

def truth (compare : Comparison) : Predicate → Truth
  | .condition leaf => leaf.truth compare
  | .group connective children => connective.join (childTruths compare children)

def childTruths (compare : Comparison) : List Predicate → List Truth
  | [] => []
  | child :: rest =>
      if child.isEmpty then childTruths compare rest
      else child.truth compare :: childTruths compare rest

end

def truth? (compare : Comparison) (predicate : Predicate) : Option Truth :=
  if predicate.isEmpty then none else some (predicate.truth compare)

end Predicate

section Agreement

variable {compare : Comparison}

theorem Connective.truth_expression (connective : Connective) {factors : List Factor}
    (filled : factors ≠ []) :
    alternativesTruth compare (connective.expression factors) =
      connective.join (factors.map (Factor.truth compare)) := by
  have same : Factor.under compare.assignment = Factor.truth compare :=
    funext (Factor.under_assignment compare)
  rw [← alternativesUnder_assignment, connective.under_expression compare.assignment filled, same]

theorem Expression.truth?_of_filled {expression : Expression} (filled : expression ≠ []) :
    expression.truth? compare = some (alternativesTruth compare expression) := by
  cases expression with
  | nil => exact absurd rfl filled
  | cons first rest => rfl

theorem Factor.truth_compared (column : String) (operator : Operator) (value : Value) :
    (Factor.compared column operator value).truth compare =
      operator.truth compare column [value] := by
  cases operator with
  | within => rfl
  | notWithin => rfl
  | _ => rfl

theorem Condition.Form.truth_factor {condition : Condition} {fragment : Fragment}
    (form : condition.Form fragment) (respects : compare.Respects) :
    condition.factor.truth compare = condition.truth compare := by
  have distinctAny (values : List Value) :
      Truth.any ((Value.distinct values).map (compare condition.column .eq)) =
        Truth.any (values.map (compare condition.column .eq)) :=
    Truth.any_congr (Value.mem_map_distinct (respects condition.column .eq))
  have distinctAll (values : List Value) :
      Truth.all ((Value.distinct values).map (compare condition.column .ne)) =
        Truth.all (values.map (compare condition.column .ne)) :=
    Truth.all_congr (Value.mem_map_distinct (respects condition.column .ne))
  cases form with
  | scalar value operand =>
      simp only [factor, operand, truth, Factor.truth_compared, Operand.defaultOperator,
        Operand.values]
  | single values value operand distinct =>
      have first := Value.head_of_distinct distinct
      have one := distinctAny values
      have every := distinctAll values
      rw [distinct] at one every
      simp only [factor, operand, distinct, truth, Factor.truth_compared, Operand.defaultOperator,
        Operand.values]
      cases operator : condition.operator with
      | none => simpa [Operator.truth, Truth.any_singleton] using one
      | some written =>
          cases written with
          | within => simpa [Operator.truth, Operator.singular, Truth.any_singleton] using one
          | notWithin => simpa [Operator.truth, Operator.singular, Truth.all_singleton] using every
          | _ => simp [Operator.truth, Operator.singular, first]
  | several values first second rest operand distinct takesList =>
      have one := distinctAny values
      have every := distinctAll values
      rw [distinct] at one every
      simp only [factor, operand, distinct, truth, Operand.defaultOperator, Operand.values]
      cases operator : condition.operator with
      | none => simpa [Operator.truth, Factor.truth] using one
      | some written =>
          cases written with
          | within => simpa [Operator.truth, Factor.truth] using one
          | notWithin => simpa [Operator.truth, Factor.truth] using every
          | _ => simp [operator, Operator.takesList] at takesList

namespace Predicate

mutual

theorem truth_of_compile (respects : compare.Respects) :
    ∀ (predicate : Predicate) (fragment : Fragment), predicate.compile = .ok fragment →
      predicate.isEmpty = false → predicate.factor.truth compare = predicate.truth compare
  | .condition leaf, fragment, compiled, _ => by
      rw [compile] at compiled
      exact (Condition.form_of_compile compiled).truth_factor respects
  | .group connective children, fragment, compiled, filled => by
      obtain ⟨parts, found, _⟩ := parts_of_compile compiled
      rw [factor, Factor.truth, connective.truth_expression (childFactors_ne_nil filled), truth,
        truths_of_compileChildren respects children parts found]

theorem truths_of_compileChildren (respects : compare.Respects) :
    ∀ (children : List Predicate) (parts : List Fragment), compileChildren children = .ok parts →
      (childFactors children).map (Factor.truth compare) = childTruths compare children
  | [], _, _ => rfl
  | child :: rest, parts, compiled => by
      by_cases empty : child.isEmpty = true
      · rw [compileChildren_of_isEmpty rest empty] at compiled
        simpa [childTruths, childFactors, empty] using
          truths_of_compileChildren respects rest parts compiled
      · simp only [Bool.not_eq_true] at empty
        obtain ⟨fragment, others, first, following, _⟩ := part_of_compileChildren compiled empty
        have firstTruth := truth_of_compile respects child fragment first empty
        have restTruths := truths_of_compileChildren respects rest others following
        simp [childTruths, childFactors, empty, firstTruth, restTruths]

end

theorem truth_expression {predicate : Predicate} {fragment : Fragment}
    (respects : compare.Respects) (compiled : predicate.compile = .ok fragment) :
    predicate.expression.truth? compare = predicate.truth? compare := by
  cases predicate with
  | condition leaf =>
      have leafTruth := truth_of_compile respects (.condition leaf) fragment compiled rfl
      rw [factor] at leafTruth
      simp [expression, Expression.truth?, alternativesTruth, factorsTruth, leafTruth, truth?,
        isEmpty]
  | group connective children =>
      obtain ⟨parts, found, _⟩ := parts_of_compile compiled
      have truths := truths_of_compileChildren respects children parts found
      cases empty : allEmpty children with
      | true =>
          simp [expression, childFactors_of_allEmpty empty, Connective.expression,
            Expression.truth?, truth?, isEmpty, empty]
      | false =>
          have filled := childFactors_ne_nil empty
          rw [expression, Expression.truth?_of_filled (connective.expression_ne_nil filled),
            connective.truth_expression filled, truths]
          simp [truth?, isEmpty, empty, truth]

end Predicate

end Agreement

namespace Predicate

/-- The SQL and the values of a compiled predicate can be read, no value is left over, and what is
read is as true as the predicate under every comparison. -/
theorem compile_keeps_meaning {predicate : Predicate} {fragment : Fragment}
    (compiled : predicate.compile = .ok fragment)
    (plain : ∀ column ∈ predicate.columns, Token.isPlainName column = true) :
    ∃ expression, Expression.read fragment.sql fragment.values = some (expression, []) ∧
      ∀ compare : Comparison, compare.Respects →
        expression.truth? compare = predicate.truth? compare := by
  refine ⟨predicate.expression, read_of_compile compiled plain, ?_⟩
  intro compare respects
  exact truth_expression respects compiled

def inReview : Predicate :=
  all [eq "ticket.state" (.text "review"),
    any [isIn "kind" [.int 1, .int 1, .int 2], all [], compare "score" .gt (.scalar (.int 5))]]

def inReviewFragment : Fragment :=
  [.text "ticket.state = ", .slot (.text "review"), .text " AND ", .text "(",
    .text "kind IN (", .slot (.int 1), .text ", ", .slot (.int 2), .text ")", .text " OR ",
    .text "score > ", .slot (.int 5), .text ")"]

theorem compile_keeps_meaning_inReview :
    inReview.compile = .ok inReviewFragment ∧
      (∀ column ∈ inReview.columns, Token.isPlainName column = true) ∧
      inReviewFragment.sql = "ticket.state = ? AND (kind IN (?, ?) OR score > ?)" ∧
      ∃ expression, Expression.read inReviewFragment.sql inReviewFragment.values =
          some (expression, []) ∧
        ∀ compare : Comparison, compare.Respects →
          expression.truth? compare = inReview.truth? compare :=
  ⟨rfl, by decide, by decide, compile_keeps_meaning rfl (by decide)⟩

end Predicate

end BoundSql
