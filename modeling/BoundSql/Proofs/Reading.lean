import BoundSql.Proofs.Conditions
import BoundSql.Proofs.Expression

/-! Compiled predicates as they are read. The expression read from the text and values of a
compiled predicate is the predicate itself with its operators explicit, its lists without
duplicates and its groups without children that have no condition. -/

namespace BoundSql

def Factor.compared (column : String) (operator : Operator) (value : Value) : Factor :=
  if operator.takesList then .membership column (decide (operator = .notWithin)) [value]
  else .comparison column operator value

def Condition.factor (condition : Condition) : Factor :=
  match condition.operand with
  | .scalar value => .compared condition.column (condition.operator.getD .eq) value
  | .list values =>
      match Value.distinct values with
      | [single] =>
          .compared condition.column ((condition.operator.map Operator.singular).getD .eq) single
      | several =>
          .membership condition.column (decide (condition.operator = some .notWithin)) several

def Connective.expression : Connective → List Factor → Expression
  | _, [] => []
  | .and, factors => [factors]
  | .or, factors => factors.map fun factor => [factor]

theorem Connective.expression_ne_nil (connective : Connective) {factors : List Factor}
    (filled : factors ≠ []) : connective.expression factors ≠ [] := by
  cases factors with
  | nil => exact absurd rfl filled
  | cons first rest => cases connective <;> simp [expression]

namespace Predicate

mutual

def factor : Predicate → Factor
  | .condition leaf => leaf.factor
  | .group connective children => .group (connective.expression (childFactors children))

def childFactors : List Predicate → List Factor
  | [] => []
  | child :: rest =>
      if child.isEmpty then childFactors rest else child.factor :: childFactors rest

end

def expression : Predicate → Expression
  | .condition leaf => [[leaf.factor]]
  | .group connective children => connective.expression (childFactors children)

end Predicate

namespace ConditionReader

theorem after_append_space (reader : ConditionReader) (left right : List Char) :
    reader.after (left ++ ' ' :: right) = reader.after left >>= fun next => next.after right := by
  simp only [after, Token.ofChars_append_space, List.foldlM_append]

theorem after_append_closing (reader : ConditionReader) (left right : List Char) :
    reader.after (left ++ ')' :: right) =
      reader.after left >>= fun next =>
        next.step .closing >>= fun closed => closed.after right := by
  simp only [after, Token.ofChars_append_closing, List.foldlM_append, List.foldlM_cons]

@[simp] theorem after_nil (reader : ConditionReader) : reader.after [] = some reader := rfl

theorem after_space (reader : ConditionReader) (right : List Char) :
    reader.after (' ' :: right) = reader.after right := by
  simp only [after, Token.ofChars_space]

theorem after_mark (reader : ConditionReader) (right : List Char) :
    reader.after ('?' :: right) = reader.step .mark >>= fun next => next.after right := by
  simp only [after, Token.ofChars_mark, List.foldlM_cons]

theorem after_comma (reader : ConditionReader) (right : List Char) :
    reader.after (',' :: right) = reader.step .comma >>= fun next => next.after right := by
  simp only [after, Token.ofChars_comma, List.foldlM_cons]

theorem after_opening (reader : ConditionReader) (right : List Char) :
    reader.after ('(' :: right) = reader.step .opening >>= fun next => next.after right := by
  simp only [after, Token.ofChars_opening, List.foldlM_cons]

theorem after_closing (reader : ConditionReader) (right : List Char) :
    reader.after (')' :: right) = reader.step .closing >>= fun next => next.after right := by
  simp only [after, Token.ofChars_closing, List.foldlM_cons]

variable (outer : List Frame) (current : Frame) (values : List Value)

theorem after_column {column : String} (plain : Token.isPlainName column = true) :
    after ⟨outer, current, .operand, values⟩ column.toList =
      some ⟨outer, current, .operator column [], values⟩ := by
  have notKeyword : Token.isKeyword column = false := by
    simp only [Token.isPlainName, Bool.and_eq_true, Bool.not_eq_true'] at plain
    exact plain.2
  simp [after, Token.ofChars_plainName plain, step, notKeyword]

theorem after_operator (column : String) (operator : Operator) :
    ∃ words, after ⟨outer, current, .operator column [], values⟩ operator.sql.toList =
      some ⟨outer, current, .operator column words, values⟩ ∧
      Operator.ofWords? words = some operator := by
  cases operator <;> exact ⟨_, rfl, rfl⟩

theorem after_connective (connective : Connective) :
    after ⟨outer, current, .connective, values⟩ connective.sql.toList =
      some ⟨outer, current.next connective, .operand, values⟩ := by
  cases connective <;> rfl

theorem after_heading {column : String} (plain : Token.isPlainName column = true)
    (operator : Operator) : ∃ words, Operator.ofWords? words = some operator ∧ ∀ right,
      after ⟨outer, current, .operand, values⟩
        (column.toList ++ ' ' :: (operator.sql.toList ++ ' ' :: right)) =
        after ⟨outer, current, .operator column words, values⟩ right := by
  obtain ⟨words, operatorRead, denotes⟩ := after_operator outer current values column operator
  refine ⟨words, denotes, ?_⟩
  intro right
  rw [after_append_space, after_column outer current values plain, Option.bind_eq_bind,
    Option.bind_some, after_append_space, operatorRead, Option.bind_eq_bind, Option.bind_some]

theorem step_openList {operator : Operator} {words : List String}
    (denotes : Operator.ofWords? words = some operator) (takesList : operator.takesList = true)
    (column : String) :
    step ⟨outer, current, .operator column words, values⟩ .opening =
      some ⟨outer, current, .list column (decide (operator = .notWithin)) [], values⟩ := by
  cases operator with
  | within => simp [step, openList, denotes]
  | notWithin => simp [step, openList, denotes]
  | _ => simp [Operator.takesList] at takesList

theorem finish_eq (phase : Phase) (factor : Factor) :
    finish ⟨outer, current, phase, values⟩ factor =
      ⟨outer, current.push factor, .connective, values⟩ := rfl

theorem after_slots (column : String) (negated : Bool) (taken : List Value) (value : Value)
    (rest more : List Value) :
    after ⟨outer, current, .list column negated taken, value :: (rest ++ more)⟩
      ((Fragment.joined ", " ((value :: rest).map fun item => [.slot item])).sql.toList ++ [')']) =
      some ⟨outer, current.push (.membership column negated (taken ++ value :: rest)),
        .connective, more⟩ := by
  induction rest generalizing taken value with
  | nil =>
      have text : (Fragment.joined ", " ([value].map fun item => [.slot item])).sql.toList ++ [')']
          = ['?', ')'] := by simp [Fragment.joined]
      rw [text, after_mark]
      simp [step, takeNext, after_closing, finish_eq]
  | cons second others ih =>
      have text : (Fragment.joined ", "
            ((value :: second :: others).map fun item => [.slot item])).sql.toList ++ [')'] =
          '?' :: ',' :: ' ' :: ((Fragment.joined ", "
            ((second :: others).map fun item => [.slot item])).sql.toList ++ [')']) := by
        simp [Fragment.joined_cons_cons]
      rw [text, after_mark]
      simp only [step, takeNext, Option.bind_eq_bind, Option.bind_some, after_comma, after_space,
        List.cons_append, ih]
      simp

end ConditionReader

def Fragment.Reads (fragment : Fragment) (factor : Factor) : Prop :=
  ∀ outer current more,
    ConditionReader.after ⟨outer, current, .operand, fragment.values ++ more⟩ fragment.sql.toList =
      some ⟨outer, current.push factor, .connective, more⟩

section Leaves

open ConditionReader

theorem Condition.reads_membership {column : String} (plain : Token.isPlainName column = true)
    {operator : Operator} (takesList : operator.takesList = true) (value : Value)
    (rest : List Value) :
    (membership column operator (value :: rest)).Reads
      (.membership column (decide (operator = .notWithin)) (value :: rest)) := by
  intro outer current more
  obtain ⟨words, denotes, heading⟩ :=
    after_heading outer current (value :: (rest ++ more)) plain operator
  have text : (membership column operator (value :: rest)).sql.toList =
      column.toList ++ ' ' :: (operator.sql.toList ++ ' ' :: '(' ::
        ((Fragment.joined ", " ((value :: rest).map fun item => [.slot item])).sql.toList ++
          [')'])) := by
    simp [membership]
  have bound : (membership column operator (value :: rest)).values = value :: rest := by
    simp [membership, Fragment.values_joined, List.flatMap_map]
  rw [text, bound, List.cons_append, heading, after_opening,
    step_openList outer current _ denotes takesList, Option.bind_eq_bind, Option.bind_some,
    after_slots]
  rfl

theorem Condition.reads_comparison {column : String} (plain : Token.isPlainName column = true)
    (operator : Operator) (value : Value) :
    (comparison column operator value).Reads (.compared column operator value) := by
  by_cases takesList : operator.takesList = true
  · have listed := reads_membership plain takesList value []
    have same : comparison column operator value = membership column operator [value] := by
      simp [comparison, takesList, membership, Fragment.joined]
    rw [same, Factor.compared, if_pos takesList]
    exact listed
  · intro outer current more
    obtain ⟨words, denotes, heading⟩ :=
      after_heading outer current (value :: more) plain operator
    have text : (comparison column operator value).sql.toList =
        column.toList ++ ' ' :: (operator.sql.toList ++ ' ' :: ['?']) := by
      simp [comparison, takesList]
    have bound : (comparison column operator value).values = [value] := by
      simp [comparison, takesList]
    rw [text, bound, List.singleton_append, heading, after_mark]
    simp [step, compareNext, denotes, takesList, finish_eq, Factor.compared]

theorem Condition.Form.reads {condition : Condition} {fragment : Fragment}
    (form : condition.Form fragment) (plain : Token.isPlainName condition.column = true) :
    fragment.Reads condition.factor := by
  cases form with
  | scalar value operand =>
      have factor : condition.factor =
          .compared condition.column (condition.operator.getD .eq) value := by
        simp only [Condition.factor, operand]
      exact factor ▸ reads_comparison plain _ value
  | single values value operand distinct =>
      have factor : condition.factor = .compared condition.column
          ((condition.operator.map Operator.singular).getD .eq) value := by
        simp only [Condition.factor, operand, distinct]
      exact factor ▸ reads_comparison plain _ value
  | several values first second rest operand distinct takesList =>
      have negated : decide (condition.operator = some .notWithin) =
          decide (condition.operator.getD .within = .notWithin) := by
        cases condition.operator <;> simp
      have factor : condition.factor = .membership condition.column
          (decide (condition.operator.getD .within = .notWithin)) (first :: second :: rest) := by
        simp only [Condition.factor, operand, distinct, negated]
      exact factor ▸ reads_membership plain takesList first (second :: rest)

end Leaves

def Frame.gather (connective : Connective) (frame : Frame) : List Factor → Frame
  | [] => frame
  | [last] => frame.push last
  | first :: rest => gather connective ((frame.push first).next connective) rest

theorem Frame.gather_and (factors : List Factor) (frame : Frame) :
    frame.gather .and factors = { frame with factors := frame.factors ++ factors } := by
  induction factors generalizing frame with
  | nil => simp [gather]
  | cons first rest ih =>
      cases rest with
      | nil => rfl
      | cons second others => simp [gather, ih, push, next]

theorem Frame.gather_or (first : Factor) (rest : List Factor) (alternatives : List (List Factor)) :
    (Frame.gather .or ⟨alternatives, []⟩ (first :: rest)).expression =
      alternatives ++ (first :: rest).map fun factor => [factor] := by
  induction rest generalizing first alternatives with
  | nil => rfl
  | cons second others ih =>
      have step : Frame.gather .or ⟨alternatives, []⟩ (first :: second :: others) =
          Frame.gather .or ⟨alternatives ++ [[first]], []⟩ (second :: others) := rfl
      rw [step, ih, List.append_assoc]
      rfl

theorem Frame.expression_gather (connective : Connective) {factors : List Factor}
    (filled : factors ≠ []) :
    (Frame.gather connective {} factors).expression = connective.expression factors := by
  cases factors with
  | nil => exact absurd rfl filled
  | cons first rest =>
      cases connective with
      | and => simp [gather_and, expression, Connective.expression]
      | or => simp [gather_or, Connective.expression]

namespace Fragment

theorem reads_joined (connective : Connective) {parts : List Fragment} {factors : List Factor}
    (reads : List.Forall₂ Reads parts factors) (filled : factors ≠ []) (outer : List Frame)
    (current : Frame) (more : List Value) :
    ConditionReader.after ⟨outer, current, .operand,
        (joined (" " ++ connective.sql ++ " ") parts).values ++ more⟩
      (joined (" " ++ connective.sql ++ " ") parts).sql.toList =
      some ⟨outer, current.gather connective factors, .connective, more⟩ := by
  induction reads generalizing current with
  | nil => exact absurd rfl filled
  | @cons first factor parts factors readsFirst readsRest ih =>
      cases readsRest with
      | nil => exact readsFirst outer current more
      | @cons second secondFactor others otherFactors readsSecond readsOthers =>
          have text : (joined (" " ++ connective.sql ++ " ") (first :: second :: others)).sql.toList
              = first.sql.toList ++ ' ' :: (connective.sql.toList ++ ' ' ::
                (joined (" " ++ connective.sql ++ " ") (second :: others)).sql.toList) := by
            simp [joined_cons_cons]
          rw [text, joined_cons_cons, values_append, values_text, List.append_assoc,
            ConditionReader.after_append_space, readsFirst, Option.bind_eq_bind, Option.bind_some,
            ConditionReader.after_append_space, ConditionReader.after_connective,
            Option.bind_eq_bind, Option.bind_some]
          exact ih (by simp) ((current.push factor).next connective)

theorem reads_parenthesized (connective : Connective) {parts : List Fragment}
    {factors : List Factor} (reads : List.Forall₂ Reads parts factors) (filled : factors ≠ []) :
    (joined (" " ++ connective.sql ++ " ") parts).parenthesized.Reads
      (.group (connective.expression factors)) := by
  intro outer current more
  have inner := reads_joined connective reads filled (current :: outer) {} more
  generalize joined (" " ++ connective.sql ++ " ") parts = group at inner ⊢
  have text : group.parenthesized.sql.toList = '(' :: (group.sql.toList ++ ')' :: []) := by
    simp [parenthesized]
  have bound : group.parenthesized.values = group.values := by simp [parenthesized]
  rw [text, bound, ConditionReader.after_opening]
  simp only [ConditionReader.step, Option.bind_eq_bind, Option.bind_some,
    ConditionReader.after_append_closing, inner, ConditionReader.close, ConditionReader.after_nil,
    Frame.expression_gather connective filled]
  rfl

end Fragment

namespace Predicate

theorem childFactors_of_allEmpty {children : List Predicate}
    (empty : allEmpty children = true) : childFactors children = [] := by
  induction children with
  | nil => rfl
  | cons child rest ih =>
      simp only [allEmpty, Bool.and_eq_true] at empty
      simp [childFactors, empty.1, ih empty.2]

theorem childFactors_ne_nil {children : List Predicate}
    (filled : allEmpty children = false) : childFactors children ≠ [] := by
  induction children with
  | nil => simp [allEmpty] at filled
  | cons child rest ih =>
      by_cases empty : child.isEmpty = true
      · simp only [allEmpty, empty, Bool.true_and] at filled
        simpa [childFactors, empty] using ih filled
      · simp [childFactors, empty]

mutual

theorem reads_of_compile : ∀ (predicate : Predicate) (fragment : Fragment),
    predicate.compile = .ok fragment → predicate.isEmpty = false →
      (∀ leaf ∈ predicate.conditions, Token.isPlainName leaf.column = true) →
      (predicate.placed fragment).Reads predicate.factor
  | .condition leaf, fragment, compiled, _, plain => by
      rw [compile] at compiled
      exact (Condition.form_of_compile compiled).reads (plain leaf (by simp [conditions]))
  | .group connective children, fragment, compiled, filled, plain => by
      obtain ⟨parts, found, rfl⟩ := parts_of_compile compiled
      have reads := reads_of_compileChildren children parts found
        (by simpa [conditions] using plain)
      exact Fragment.reads_parenthesized connective reads (childFactors_ne_nil filled)

theorem reads_of_compileChildren : ∀ (children : List Predicate) (parts : List Fragment),
    compileChildren children = .ok parts →
      (∀ leaf ∈ childConditions children, Token.isPlainName leaf.column = true) →
      List.Forall₂ Fragment.Reads parts (childFactors children)
  | [], parts, compiled, _ => by
      simp only [compileChildren, Except.ok.injEq] at compiled
      subst compiled
      exact .nil
  | child :: rest, parts, compiled, plain => by
      simp only [childConditions, List.mem_append, or_imp, forall_and] at plain
      by_cases empty : child.isEmpty = true
      · rw [compileChildren_of_isEmpty rest empty] at compiled
        simpa [childFactors, empty] using reads_of_compileChildren rest parts compiled plain.2
      · simp only [Bool.not_eq_true] at empty
        obtain ⟨fragment, others, first, following, rfl⟩ := part_of_compileChildren compiled empty
        simp only [childFactors, empty, Bool.false_eq_true, if_false]
        exact .cons (reads_of_compile child fragment first empty plain.1)
          (reads_of_compileChildren rest others following plain.2)

end

theorem after_compiled {predicate : Predicate} {fragment : Fragment}
    (compiled : predicate.compile = .ok fragment) (filled : predicate.isEmpty = false)
    (plain : ∀ column ∈ predicate.columns, Token.isPlainName column = true) :
    ∃ current, ConditionReader.after ⟨[], {}, .operand, fragment.values⟩ fragment.sql.toList =
      some ⟨[], current, .connective, []⟩ ∧ current.expression = predicate.expression := by
  have plainLeaves : ∀ leaf ∈ predicate.conditions, Token.isPlainName leaf.column = true := by
    simpa [columns] using plain
  cases predicate with
  | condition leaf =>
      have reads := reads_of_compile (.condition leaf) fragment compiled filled plainLeaves [] {} []
      rw [List.append_nil] at reads
      exact ⟨_, reads, rfl⟩
  | group connective children =>
      obtain ⟨parts, found, rfl⟩ := parts_of_compile compiled
      have reads := reads_of_compileChildren children parts found
        (by simpa [conditions] using plainLeaves)
      have gathered := Fragment.reads_joined connective reads (childFactors_ne_nil filled) [] {} []
      rw [List.append_nil] at gathered
      exact ⟨_, gathered, Frame.expression_gather connective (childFactors_ne_nil filled)⟩

/-- The text and values of a compiled predicate read as its expression, and no value is left. -/
theorem read_of_compile {predicate : Predicate} {fragment : Fragment}
    (compiled : predicate.compile = .ok fragment)
    (plain : ∀ column ∈ predicate.columns, Token.isPlainName column = true) :
    Expression.read fragment.sql fragment.values = some (predicate.expression, []) := by
  cases empty : predicate.isEmpty with
  | true =>
      rw [compile_of_isEmpty empty, Except.ok.injEq] at compiled
      subst compiled
      cases predicate with
      | condition leaf => simp [isEmpty] at empty
      | group connective children =>
          have none : childFactors children = [] := childFactors_of_allEmpty empty
          simp [Expression.read, expression, none, Connective.expression]
  | false =>
      obtain ⟨current, reads, same⟩ := after_compiled compiled empty plain
      have tokens : Token.ofChars fragment.sql.toList ≠ [] := by
        intro none
        simp [ConditionReader.after, none] at reads
      simp [Expression.read, tokens, reads, ConditionReader.result?, same]

end Predicate

end BoundSql
