import BoundSql.Operator
import BoundSql.Value

/-! Predicates: conditions on columns and groups of predicates joined by a connective. -/

namespace BoundSql

inductive Operand
  | scalar (value : Value)
  | list (values : List Value)
  deriving DecidableEq

/-- Without an operator a scalar is compared for equality and a list for membership. -/
structure Condition where
  column : String
  operator : Option Operator
  operand : Operand
  deriving DecidableEq

inductive Predicate
  | condition (condition : Condition)
  | group (connective : Connective) (children : List Predicate)

namespace Predicate

def eq (column : String) (value : Value) : Predicate := .condition ⟨column, none, .scalar value⟩

def compare (column : String) (operator : Operator) (operand : Operand) : Predicate :=
  .condition ⟨column, some operator, operand⟩

def isIn (column : String) (values : List Value) : Predicate :=
  .condition ⟨column, none, .list values⟩

def all (children : List Predicate) : Predicate := .group .and children

def any (children : List Predicate) : Predicate := .group .or children

def isGroup : Predicate → Bool
  | .condition _ => false
  | .group _ _ => true

mutual

def isEmpty : Predicate → Bool
  | .condition _ => false
  | .group _ children => allEmpty children

def allEmpty : List Predicate → Bool
  | [] => true
  | child :: rest => child.isEmpty && allEmpty rest

end

/-- Joins two predicates. A group on the left that has the same connective takes in the right one,
and its children if it is such a group too; anything else on the left begins a new group. -/
def combine (connective : Connective) (left right : Predicate) : Predicate :=
  match left with
  | .group leftConnective children =>
      if leftConnective = connective then
        match right with
        | .group rightConnective others =>
            if rightConnective = connective then .group connective (children ++ others)
            else .group connective (children ++ [right])
        | .condition _ => .group connective (children ++ [right])
      else .group connective [left, right]
  | .condition _ => .group connective [left, right]

instance : AndOp Predicate := ⟨combine .and⟩

instance : OrOp Predicate := ⟨combine .or⟩

end Predicate

end BoundSql
