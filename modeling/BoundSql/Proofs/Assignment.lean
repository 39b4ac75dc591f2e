import BoundSql.Proofs.Reading

/-! Expressions under an assignment of truths to their atoms. Comparing values makes one such
assignment. A group is its connective over the children that have a truth. -/

namespace BoundSql

inductive Atom
  | comparison (column : String) (operator : Operator) (value : Value)
  | membership (column : String) (negated : Bool) (values : List Value)

abbrev Assignment := Atom → Truth

def Comparison.assignment (compare : Comparison) : Assignment
  | .comparison column operator value => compare column operator value
  | .membership column false values => Truth.any (values.map (compare column .eq))
  | .membership column true values => Truth.all (values.map (compare column .ne))

mutual

def Factor.under (assignment : Assignment) : Factor → Truth
  | .comparison column operator value => assignment (.comparison column operator value)
  | .membership column negated values => assignment (.membership column negated values)
  | .group alternatives => alternativesUnder assignment alternatives

def factorsUnder (assignment : Assignment) : List Factor → Truth
  | [] => .yes
  | factor :: rest => (factor.under assignment).and (factorsUnder assignment rest)

def alternativesUnder (assignment : Assignment) : List (List Factor) → Truth
  | [] => .no
  | factors :: rest => (factorsUnder assignment factors).or (alternativesUnder assignment rest)

end

def Expression.under? (assignment : Assignment) : Expression → Option Truth
  | [] => none
  | alternatives => some (alternativesUnder assignment alternatives)

namespace Truth

@[simp] theorem and_yes (part : Truth) : part.and .yes = part := by cases part <;> rfl

@[simp] theorem or_no (part : Truth) : part.or .no = part := by cases part <;> rfl

theorem any_singleton (part : Truth) : any [part] = part := or_no part

theorem all_singleton (part : Truth) : all [part] = part := and_yes part

end Truth

namespace Connective

def apply : Connective → Truth → Truth → Truth
  | .and => Truth.and
  | .or => Truth.or

theorem apply_assoc (connective : Connective) (first second third : Truth) :
    connective.apply (connective.apply first second) third =
      connective.apply first (connective.apply second third) := by
  cases connective <;> cases first <;> cases second <;> cases third <;> rfl

theorem join_cons (connective : Connective) (first : Truth) (rest : List Truth) :
    connective.join (first :: rest) = connective.apply first (connective.join rest) := by
  cases connective <;> rfl

theorem join_singleton (connective : Connective) (part : Truth) :
    connective.join [part] = part := by
  cases connective with
  | and => exact Truth.all_singleton part
  | or => exact Truth.any_singleton part

theorem apply_join_nil (connective : Connective) (part : Truth) :
    connective.apply (connective.join []) part = part := by
  cases connective <;> cases part <;> rfl

theorem join_append (connective : Connective) (left right : List Truth) :
    connective.join (left ++ right) =
      connective.apply (connective.join left) (connective.join right) := by
  induction left with
  | nil => rw [List.nil_append, apply_join_nil]
  | cons first rest ih =>
      rw [List.cons_append, join_cons, ih, join_cons connective first rest, apply_assoc]

def join? (connective : Connective) (parts : List (Option Truth)) : Option Truth :=
  match parts.filterMap id with
  | [] => none
  | truths => some (connective.join truths)

theorem join?_singleton (connective : Connective) (part : Option Truth) :
    connective.join? [part] = part := by
  cases part with
  | none => rfl
  | some truth => simp [join?, join_singleton]

theorem join?_append (connective : Connective) (left right : List (Option Truth)) :
    connective.join? (left ++ right) =
      Option.merge connective.apply (connective.join? left) (connective.join? right) := by
  simp only [join?, List.filterMap_append]
  cases left.filterMap id with
  | nil => simp
  | cons first rest =>
      cases right.filterMap id with
      | nil => simp
      | cons second others =>
          have whole := connective.join_append (first :: rest) (second :: others)
          simpa using whole

theorem merge_assoc (connective : Connective) (first second third : Option Truth) :
    Option.merge connective.apply (Option.merge connective.apply first second) third =
      Option.merge connective.apply first (Option.merge connective.apply second third) := by
  cases first <;> cases second <;> cases third <;> simp [apply_assoc]

end Connective

section Under

variable (assignment : Assignment)

theorem factorsUnder_eq (factors : List Factor) :
    factorsUnder assignment factors = Truth.all (factors.map (Factor.under assignment)) := by
  induction factors with
  | nil => rfl
  | cons factor rest ih =>
      rw [factorsUnder, ih]
      rfl

theorem alternativesUnder_eq (alternatives : List (List Factor)) :
    alternativesUnder assignment alternatives =
      Truth.any (alternatives.map (factorsUnder assignment)) := by
  induction alternatives with
  | nil => rfl
  | cons factors rest ih =>
      rw [alternativesUnder, ih]
      rfl

theorem Connective.under_expression (connective : Connective) {factors : List Factor}
    (filled : factors ≠ []) :
    alternativesUnder assignment (connective.expression factors) =
      connective.join (factors.map (Factor.under assignment)) := by
  cases factors with
  | nil => exact absurd rfl filled
  | cons first rest =>
      cases connective with
      | and => simp [join, expression, alternativesUnder, factorsUnder_eq]
      | or =>
          have single (factor : Factor) :
              factorsUnder assignment [factor] = factor.under assignment := by
            simp [factorsUnder]
          simp [join, expression, alternativesUnder_eq, single, Function.comp_def]

theorem Expression.under?_of_filled {expression : Expression} (filled : expression ≠ []) :
    expression.under? assignment = some (alternativesUnder assignment expression) := by
  cases expression with
  | nil => exact absurd rfl filled
  | cons first rest => rfl

end Under

section Comparison

variable (compare : Comparison)

mutual

theorem Factor.under_assignment : ∀ factor : Factor,
    factor.under compare.assignment = factor.truth compare
  | .comparison _ _ _ => rfl
  | .membership _ false _ => rfl
  | .membership _ true _ => rfl
  | .group alternatives => alternativesUnder_assignment alternatives

theorem factorsUnder_assignment : ∀ factors : List Factor,
    factorsUnder compare.assignment factors = factorsTruth compare factors
  | [] => rfl
  | factor :: rest => by
      rw [factorsUnder, factorsTruth, factor.under_assignment, factorsUnder_assignment rest]

theorem alternativesUnder_assignment : ∀ alternatives : List (List Factor),
    alternativesUnder compare.assignment alternatives = alternativesTruth compare alternatives
  | [] => rfl
  | factors :: rest => by
      rw [alternativesUnder, alternativesTruth, factorsUnder_assignment factors,
        alternativesUnder_assignment rest]

end

end Comparison

end BoundSql
