import BoundSql.Proofs.Conditions
import Mathlib.Data.List.Chain

/-! The grammar of conditions. Every compiled predicate with a condition is an expression of it, so
a connective stands between two operands and no parentheses are empty, whatever the names of the
columns are. -/

namespace BoundSql

inductive Lexeme
  | column (name : String)
  | sign (operator : Operator)
  | mark
  | comma
  | opening
  | closing
  | joint (connective : Connective)
  deriving DecidableEq

namespace Lexeme

def text : Lexeme → String
  | .column name => name
  | .sign operator => " " ++ operator.sql ++ " "
  | .mark => "?"
  | .comma => ", "
  | .opening => "("
  | .closing => ")"
  | .joint connective => " " ++ connective.sql ++ " "

def column? : Lexeme → Option String
  | .column name => some name
  | _ => none

def begins : Lexeme → Bool
  | .column _ => true
  | .opening => true
  | _ => false

def ends : Lexeme → Bool
  | .mark => true
  | .closing => true
  | _ => false

def precedes : Lexeme → Lexeme → Bool
  | .column _, .sign _ => true
  | .sign _, .mark => true
  | .sign _, .opening => true
  | .mark, .comma => true
  | .comma, .mark => true
  | .opening, .mark => true
  | .opening, next => next.begins
  | .joint _, next => next.begins
  | last, .closing => last.ends
  | last, .joint _ => last.ends
  | _, _ => false

theorem precedes_joint {last : Lexeme} (ends : last.ends = true) (connective : Connective) :
    last.precedes (.joint connective) = true := by
  cases last <;> simp_all [Lexeme.ends, precedes]

theorem precedes_closing {last : Lexeme} (ends : last.ends = true) :
    last.precedes .closing = true := by
  cases last <;> simp_all [Lexeme.ends, precedes]

theorem opening_precedes {first : Lexeme} (begins : first.begins = true) :
    opening.precedes first = true := by
  cases first <;> simp_all [Lexeme.begins, precedes]

def furtherMarks : Nat → List Lexeme
  | 0 => []
  | more + 1 => .comma :: .mark :: furtherMarks more

end Lexeme

/-- Comparisons with a mark or a list of marks, joined by connectives or in parentheses. -/
inductive IsExpression : List Lexeme → Prop
  | comparison (name : String) {operator : Operator} : operator.takesList = false →
      IsExpression [.column name, .sign operator, .mark]
  | listing (name : String) {operator : Operator} (more : Nat) : operator.takesList = true →
      IsExpression (.column name :: .sign operator :: .opening :: .mark ::
        (Lexeme.furtherMarks more ++ [.closing]))
  | joined {left right : List Lexeme} (connective : Connective) : IsExpression left →
      IsExpression right → IsExpression (left ++ .joint connective :: right)
  | parenthesized {inner : List Lexeme} : IsExpression inner →
      IsExpression (.opening :: (inner ++ [.closing]))

structure Unbroken (lexemes : List Lexeme) : Prop where
  filled : lexemes ≠ []
  begins : ∀ first ∈ lexemes.head?, first.begins = true
  ends : ∀ last ∈ lexemes.getLast?, last.ends = true
  follows : lexemes.IsChain fun first second => first.precedes second = true

namespace Unbroken

variable {left right : List Lexeme}

theorem ends_closing (front : List Lexeme) :
    ∀ last ∈ (front ++ [Lexeme.closing]).getLast?, last.ends = true := by
  simp [Lexeme.ends]

theorem joined (first : Unbroken left) (second : Unbroken right) (connective : Connective) :
    Unbroken (left ++ .joint connective :: right) where
  filled := by simp
  begins := by
    rw [List.head?_append_of_ne_nil _ first.filled]
    exact first.begins
  ends := by
    rw [List.getLast?_append_of_ne_nil _ (List.cons_ne_nil _ _),
      List.getLast?_cons_of_ne_nil second.filled]
    exact second.ends
  follows := by
    refine first.follows.append (List.isChain_cons.mpr ⟨?_, second.follows⟩) ?_
    · intro next begins
      exact second.begins next begins
    · intro last ends next same
      obtain rfl : .joint connective = next := Option.some.inj same
      exact Lexeme.precedes_joint (first.ends last ends) connective

theorem parenthesized (inner : Unbroken left) : Unbroken (.opening :: (left ++ [.closing])) where
  filled := by simp
  begins := by simp [Lexeme.begins]
  ends := ends_closing (.opening :: left)
  follows := by
    refine List.isChain_cons.mpr ⟨?_, inner.follows.append (List.IsChain.singleton _) ?_⟩
    · rw [List.head?_append_of_ne_nil _ inner.filled]
      intro first begins
      exact Lexeme.opening_precedes (inner.begins first begins)
    · intro last ends next same
      obtain rfl : .closing = next := Option.some.inj same
      exact Lexeme.precedes_closing (inner.ends last ends)

theorem preceded {lexeme : Lexeme} (unbroken : Unbroken (left ++ lexeme :: right))
    (unbegun : lexeme.begins = false) : ∃ last ∈ left.getLast?, last.precedes lexeme = true := by
  cases before : left.getLast? with
  | none =>
      have empty : left = [] := List.getLast?_eq_none_iff.mp before
      have begins := unbroken.begins lexeme (by simp [empty])
      simp [unbegun] at begins
  | some last =>
      obtain ⟨_, _, backward⟩ := List.isChain_append.mp unbroken.follows
      exact ⟨last, rfl, backward last before lexeme rfl⟩

theorem followed {lexeme : Lexeme} (unbroken : Unbroken (left ++ lexeme :: right))
    (unended : lexeme.ends = false) : ∃ first ∈ right.head?, lexeme.precedes first = true := by
  cases after : right.head? with
  | none =>
      have empty : right = [] := List.head?_eq_none_iff.mp after
      have ends := unbroken.ends lexeme (by simp [empty])
      simp [unended] at ends
  | some first =>
      obtain ⟨_, onward, _⟩ := List.isChain_append.mp unbroken.follows
      exact ⟨first, rfl, (List.isChain_cons.mp onward).1 first after⟩

theorem between_operands {connective : Connective}
    (unbroken : Unbroken (left ++ .joint connective :: right)) :
    (∃ last ∈ left.getLast?, last.ends = true) ∧ ∃ first ∈ right.head?, first.begins = true := by
  obtain ⟨last, before, precedes⟩ := unbroken.preceded rfl
  refine ⟨⟨last, before, ?_⟩, unbroken.followed rfl⟩
  cases last <;> first | rfl | cases precedes

theorem parentheses_filled (unbroken : Unbroken (left ++ .opening :: right)) :
    ∃ first ∈ right.head?, first ≠ .closing := by
  obtain ⟨first, after, precedes⟩ := unbroken.followed rfl
  refine ⟨first, after, ?_⟩
  rintro rfl
  cases precedes

end Unbroken

theorem isChain_furtherMarks (more : Nat) :
    (.mark :: (Lexeme.furtherMarks more ++ [.closing])).IsChain
      fun first second => first.precedes second = true := by
  induction more with
  | zero => simp [Lexeme.furtherMarks, Lexeme.precedes, Lexeme.ends]
  | succ more ih =>
      exact .cons_cons rfl (.cons_cons rfl ih)

theorem IsExpression.unbroken {lexemes : List Lexeme} (expression : IsExpression lexemes) :
    Unbroken lexemes := by
  induction expression with
  | comparison name _ =>
      exact ⟨by simp, by simp [Lexeme.begins], by simp [Lexeme.ends],
        .cons_cons rfl (.cons_cons rfl (.singleton _))⟩
  | listing name more _ =>
      exact ⟨by simp, by simp [Lexeme.begins], Unbroken.ends_closing (_ :: _ :: _ :: _ :: _),
        .cons_cons rfl (.cons_cons rfl (.cons_cons rfl (isChain_furtherMarks more)))⟩
  | joined connective _ _ first second => exact first.joined second connective
  | parenthesized _ inner => exact inner.parenthesized

/-- The text of the fragment is this expression over these columns, with a mark for each value. -/
structure Fragment.Spells (fragment : Fragment) (columns : List String) (lexemes : List Lexeme) :
    Prop where
  expression : IsExpression lexemes
  text : fragment.sql = String.join (lexemes.map Lexeme.text)
  columns : lexemes.filterMap Lexeme.column? = columns
  marks : lexemes.count .mark = fragment.values.length

namespace Fragment

variable {left right : Fragment} {columns more : List String} {lexemes others : List Lexeme}

theorem Spells.joined (first : left.Spells columns lexemes) (second : right.Spells more others)
    (connective : Connective) :
    (left ++ .text (" " ++ connective.sql ++ " ") :: right).Spells (columns ++ more)
      (lexemes ++ .joint connective :: others) where
  expression := .joined connective first.expression second.expression
  text := by
    simp [first.text, second.text, Lexeme.text, String.join_append, String.join_cons]
  columns := by
    rw [List.filterMap_append, List.filterMap_cons_none rfl, first.columns, second.columns]
  marks := by
    simp [first.marks, second.marks]

theorem Spells.parenthesized (inner : left.Spells columns lexemes) :
    left.parenthesized.Spells columns (.opening :: (lexemes ++ [.closing])) where
  expression := .parenthesized inner.expression
  text := by
    simp [Fragment.parenthesized, inner.text, Lexeme.text, String.join_append, String.join_cons]
  columns := by
    rw [List.filterMap_cons_none rfl, List.filterMap_append, inner.columns]
    exact List.append_nil columns
  marks := by
    simp [Fragment.parenthesized, inner.marks]

end Fragment

theorem Lexeme.furtherMarks_spell (value : Value) (rest : List Value) :
    (Fragment.joined ", " ([.slot value] :: rest.map fun item => [.slot item])).sql =
      String.join ((mark :: furtherMarks rest.length).map text) ∧
    (furtherMarks rest.length).filterMap column? = [] ∧
    (furtherMarks rest.length).count mark = rest.length := by
  induction rest generalizing value with
  | nil => simp [furtherMarks, Fragment.joined, text]
  | cons second others ih =>
      obtain ⟨spelled, columns, marks⟩ := ih second
      refine ⟨?_, ?_, ?_⟩
      · rw [List.map_cons, Fragment.joined_cons_cons, Fragment.sql_append, Fragment.sql_text,
          spelled]
        simp [furtherMarks, text, String.join_cons]
      · simpa [furtherMarks, column?] using columns
      · simpa [furtherMarks] using marks

namespace Condition

theorem spells_membership (column : String) {operator : Operator}
    (takesList : operator.takesList = true) (value : Value) (rest : List Value) :
    ∃ lexemes, (membership column operator (value :: rest)).Spells [column] lexemes := by
  obtain ⟨spelled, columns, marks⟩ := Lexeme.furtherMarks_spell value rest
  refine ⟨_, .listing column rest.length takesList, ?_, ?_, ?_⟩
  · have gap (text : String) : " (" ++ text = " " ++ ("(" ++ text) := by
      rw [← String.append_assoc]
      rfl
    simp [membership, spelled, gap, Lexeme.text, String.join_append, String.join_cons,
      String.append_assoc]
  · simp only [List.filterMap_cons, List.filterMap_append, List.filterMap_nil, Lexeme.column?,
      columns, List.append_nil]
  · simp [membership, Fragment.values_joined, List.flatMap_map, marks]

theorem spells_comparison (column : String) (operator : Operator) (value : Value) :
    ∃ lexemes, (comparison column operator value).Spells [column] lexemes := by
  by_cases takesList : operator.takesList = true
  · have listed := spells_membership column takesList value []
    have same : comparison column operator value = membership column operator [value] := by
      simp [comparison, takesList, membership, Fragment.joined]
    exact same ▸ listed
  · refine ⟨_, .comparison column (Bool.eq_false_iff.mpr takesList), ?_, rfl, ?_⟩
    · simp [comparison, takesList, Lexeme.text, String.join_cons, String.append_assoc]
    · simp [comparison, takesList]

theorem Form.spells {condition : Condition} {fragment : Fragment}
    (form : condition.Form fragment) : ∃ lexemes, fragment.Spells [condition.column] lexemes := by
  cases form with
  | scalar value _ => exact spells_comparison _ _ value
  | single _ value _ _ => exact spells_comparison _ _ value
  | several _ first second rest _ _ takesList =>
      exact spells_membership _ takesList first (second :: rest)

end Condition

namespace Predicate

theorem spells_placed (child : Predicate) {fragment : Fragment} {columns : List String}
    (inner : ∃ lexemes, fragment.Spells columns lexemes) :
    ∃ lexemes, (child.placed fragment).Spells columns lexemes := by
  obtain ⟨lexemes, spells⟩ := inner
  unfold placed
  split
  · exact ⟨_, spells.parenthesized⟩
  · exact ⟨lexemes, spells⟩

mutual

theorem spells_of_compile : ∀ (predicate : Predicate) (fragment : Fragment),
    predicate.compile = .ok fragment → predicate.isEmpty = false →
      ∃ lexemes, fragment.Spells predicate.columns lexemes
  | .condition leaf, fragment, compiled, _ => by
      rw [compile] at compiled
      exact (Condition.form_of_compile compiled).spells
  | .group connective children, fragment, compiled, filled => by
      obtain ⟨parts, found, rfl⟩ := parts_of_compile compiled
      exact spells_of_compileChildren connective children parts found filled

theorem spells_of_compileChildren (connective : Connective) :
    ∀ (children : List Predicate) (parts : List Fragment),
      compileChildren children = .ok parts → allEmpty children = false →
      ∃ lexemes, (Fragment.joined (" " ++ connective.sql ++ " ") parts).Spells
        ((childConditions children).map Condition.column) lexemes
  | [], _, _, filled => by simp [allEmpty] at filled
  | child :: rest, parts, compiled, filled => by
      rw [childConditions, List.map_append]
      by_cases empty : child.isEmpty = true
      · rw [compileChildren_of_isEmpty rest empty] at compiled
        have restFilled : allEmpty rest = false := by simpa [allEmpty, empty] using filled
        rw [(isEmpty_iff child).mp empty, List.map_nil, List.nil_append]
        exact spells_of_compileChildren connective rest parts compiled restFilled
      · rw [Bool.not_eq_true] at empty
        obtain ⟨fragment, others, first, following, rfl⟩ := part_of_compileChildren compiled empty
        have placed := spells_placed child (spells_of_compile child fragment first empty)
        by_cases last : allEmpty rest = true
        · -- the groups behind the last condition add nothing, not even a connective
          rw [compileChildren_of_allEmpty last, Except.ok.injEq] at following
          subst following
          rw [(allEmpty_iff rest).mp last, List.map_nil, List.append_nil]
          exact placed
        · rw [Bool.not_eq_true] at last
          obtain ⟨_, spells⟩ := spells_of_compileChildren connective rest others following last
          obtain ⟨second, remaining, rfl, _⟩ := compileChildren_filled rest others following last
          obtain ⟨_, spellsFirst⟩ := placed
          exact ⟨_, spellsFirst.joined spells connective⟩

end

end Predicate

end BoundSql
