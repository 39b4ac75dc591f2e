import BoundSql.Proofs.Reading

/-! Normal forms of predicates: operators explicit, lists without duplicates and one value no
list, no group without a condition, and no choice of connective where a group has one child. The
normal form of a predicate can be read off the expression that its compiled form denotes. -/

namespace BoundSql

def Condition.normal (condition : Condition) : Condition :=
  match condition.operand with
  | .scalar value => ⟨condition.column, some (condition.operator.getD .eq), .scalar value⟩
  | .list values =>
      match Value.distinct values with
      | [single] =>
          ⟨condition.column, some ((condition.operator.map Operator.singular).getD .eq),
            .scalar single⟩
      | several => ⟨condition.column, some (condition.operator.getD .within), .list several⟩

namespace Predicate

/-- A group whose connective counts only between two children. -/
def regroup (connective : Connective) : List Predicate → Predicate
  | [only] => .group .and [only]
  | children => .group connective children

mutual

def normal : Predicate → Predicate
  | .condition leaf => .condition leaf.normal
  | .group connective children => regroup connective (normalChildren children)

def normalChildren : List Predicate → List Predicate
  | [] => []
  | child :: rest =>
      if child.isEmpty then normalChildren rest else child.normal :: normalChildren rest

end

def normalRoot : Predicate → Predicate
  | .condition leaf => .group .and [.condition leaf.normal]
  | .group connective children => regroup connective (normalChildren children)

example : normalRoot (any [any [], all [isIn "gate" [.int 2, .int 2]], eq "day" .null]) =
    any [all [compare "gate" .eq (.scalar (.int 2))], compare "day" .eq (.scalar .null)] := rfl

end Predicate

mutual

def Factor.predicate : Factor → Predicate
  | .comparison column operator value => .condition ⟨column, some operator, .scalar value⟩
  | .membership column negated values =>
      .condition ⟨column, some (if negated then .notWithin else .within),
        match values with
        | [single] => .scalar single
        | several => .list several⟩
  | .group alternatives => .group (alternativesConnective alternatives)
      (alternativesPredicates alternatives)

def factorsPredicates : List Factor → List Predicate
  | [] => []
  | factor :: rest => factor.predicate :: factorsPredicates rest

def alternativesPredicates : List (List Factor) → List Predicate
  | [] => []
  | factors :: rest => factorsPredicates factors ++ alternativesPredicates rest

def alternativesConnective : List (List Factor) → Connective
  | _ :: _ :: _ => .or
  | _ => .and

end

def Expression.predicate (expression : Expression) : Predicate :=
  .group (alternativesConnective expression) (alternativesPredicates expression)

theorem alternativesPredicates_singletons (factors : List Factor) :
    alternativesPredicates (factors.map fun factor => [factor]) = factorsPredicates factors := by
  induction factors with
  | nil => rfl
  | cons factor rest ih => simp [alternativesPredicates, factorsPredicates, ih]

theorem Connective.predicate_expression (connective : Connective) {factors : List Factor}
    (filled : factors ≠ []) :
    Expression.predicate (connective.expression factors) =
      Predicate.regroup connective (factorsPredicates factors) := by
  match factors with
  | [] => exact absurd rfl filled
  | [only] =>
      cases connective <;>
        simp [expression, Expression.predicate, alternativesConnective, alternativesPredicates,
          factorsPredicates, Predicate.regroup]
  | first :: second :: rest =>
      cases connective with
      | and =>
          simp [expression, Expression.predicate, alternativesConnective, alternativesPredicates,
            factorsPredicates, Predicate.regroup]
      | or =>
          have children := alternativesPredicates_singletons (first :: second :: rest)
          simp only [Expression.predicate, expression, children]
          simp [alternativesConnective, factorsPredicates, Predicate.regroup]

theorem Factor.predicate_compared (column : String) (operator : Operator) (value : Value) :
    (compared column operator value).predicate =
      .condition ⟨column, some operator, .scalar value⟩ := by
  cases operator <;> rfl

theorem Condition.Form.predicate_factor {condition : Condition} {fragment : Fragment}
    (form : condition.Form fragment) :
    condition.factor.predicate = .condition condition.normal := by
  cases form with
  | scalar value operand =>
      simp only [factor, normal, operand, Factor.predicate_compared]
  | single values value operand distinct =>
      simp only [factor, normal, operand, distinct, Factor.predicate_compared]
  | several values first second rest operand distinct takesList =>
      have operator : (if condition.operator = some .notWithin then Operator.notWithin
          else .within) = condition.operator.getD .within := by
        cases written : condition.operator with
        | none => rfl
        | some operator => cases operator <;> simp_all [Operator.takesList]
      simp [factor, normal, operand, distinct, Factor.predicate, operator]

namespace Predicate

mutual

theorem predicate_factor : ∀ (predicate : Predicate) (fragment : Fragment),
    predicate.compile = .ok fragment → predicate.isEmpty = false →
      predicate.factor.predicate = predicate.normal
  | .condition leaf, fragment, compiled, _ => by
      rw [compile] at compiled
      exact (Condition.form_of_compile compiled).predicate_factor
  | .group connective children, fragment, compiled, filled => by
      obtain ⟨parts, found, _⟩ := parts_of_compile compiled
      have whole := connective.predicate_expression (childFactors_ne_nil filled)
      rw [predicates_childFactors children parts found] at whole
      rw [factor, Factor.predicate]
      exact whole

theorem predicates_childFactors : ∀ (children : List Predicate) (parts : List Fragment),
    compileChildren children = .ok parts →
      factorsPredicates (childFactors children) = normalChildren children
  | [], _, _ => rfl
  | child :: rest, parts, compiled => by
      by_cases empty : child.isEmpty = true
      · rw [compileChildren_of_isEmpty rest empty] at compiled
        simpa [childFactors, normalChildren, empty] using
          predicates_childFactors rest parts compiled
      · simp only [Bool.not_eq_true] at empty
        obtain ⟨fragment, others, first, following, _⟩ := part_of_compileChildren compiled empty
        simp [childFactors, normalChildren, factorsPredicates, empty,
          predicate_factor child fragment first empty,
          predicates_childFactors rest others following]

end

theorem predicate_expression {predicate : Predicate} {fragment : Fragment}
    (compiled : predicate.compile = .ok fragment) (filled : predicate.isEmpty = false) :
    predicate.expression.predicate = predicate.normalRoot := by
  cases predicate with
  | condition leaf =>
      have whole := predicate_factor (.condition leaf) fragment compiled filled
      rw [factor, normal] at whole
      simp [expression, Expression.predicate, alternativesConnective, alternativesPredicates,
        factorsPredicates, whole, normalRoot]
  | group connective children =>
      obtain ⟨parts, found, _⟩ := parts_of_compile compiled
      rw [expression, connective.predicate_expression (childFactors_ne_nil filled),
        predicates_childFactors children parts found, normalRoot]

/-- Predicates that compile to the same text and values have the same normal form. -/
theorem normalRoot_eq_of_compile {first second : Predicate} {left right : Fragment}
    (compiled : first.compile = .ok left) (otherCompiled : second.compile = .ok right)
    (filled : first.isEmpty = false) (otherFilled : second.isEmpty = false)
    (plain : ∀ column ∈ first.columns, Token.isPlainName column = true)
    (otherPlain : ∀ column ∈ second.columns, Token.isPlainName column = true)
    (tokens : Token.ofChars left.sql.toList = Token.ofChars right.sql.toList)
    (values : left.values = right.values) : first.normalRoot = second.normalRoot := by
  obtain ⟨current, reads, same⟩ := after_compiled compiled filled plain
  obtain ⟨other, otherReads, otherSame⟩ := after_compiled otherCompiled otherFilled otherPlain
  simp only [ConditionReader.after, tokens, values] at reads otherReads
  rw [reads] at otherReads
  have frames : current = other := by simpa using otherReads
  rw [← predicate_expression compiled filled, ← predicate_expression otherCompiled otherFilled,
    ← same, ← otherSame, frames]

end Predicate

end BoundSql
