import BoundSql.Error
import BoundSql.Fragment
import BoundSql.Predicate

/-! Predicates as SQL. Groups without a condition leave no trace, and a group inside a group
stands in parentheses. -/

namespace BoundSql

namespace Condition

def comparison (column : String) (operator : Operator) (value : Value) : Fragment :=
  if operator.takesList then [.text (column ++ " " ++ operator.sql ++ " ("), .slot value, .text ")"]
  else [.text (column ++ " " ++ operator.sql ++ " "), .slot value]

def membership (column : String) (operator : Operator) (values : List Value) : Fragment :=
  .text (column ++ " " ++ operator.sql ++ " (") ::
    (Fragment.joined ", " (values.map fun value => [.slot value]) ++ [.text ")"])

/-- A list is compared by its distinct values; a single one is compared as a scalar is. -/
def ofList (column : String) (operator : Option Operator) (values : List Value) :
    Except Error Fragment :=
  match Value.distinct values with
  | [] => .error (.emptyList column)
  | [single] => .ok (comparison column ((operator.map Operator.singular).getD .eq) single)
  | several =>
      let operator := operator.getD .within
      if operator.takesList then .ok (membership column operator several)
      else .error (.listForOneValue operator column)

def compile (condition : Condition) : Except Error Fragment :=
  if condition.column = "" then .error .emptyColumn
  else
    match condition.operand with
    | .scalar value => .ok (comparison condition.column (condition.operator.getD .eq) value)
    | .list values => ofList condition.column condition.operator values

end Condition

namespace Predicate

def placed (child : Predicate) (fragment : Fragment) : Fragment :=
  if child.isGroup then fragment.parenthesized else fragment

mutual

def compile : Predicate → Except Error Fragment
  | .condition leaf => leaf.compile
  | .group connective children => do
      let parts ← compileChildren children
      return Fragment.joined (" " ++ connective.sql ++ " ") parts

def compileChildren : List Predicate → Except Error (List Fragment)
  | [] => .ok []
  | child :: rest =>
      if child.isEmpty then compileChildren rest
      else do
        let fragment ← child.compile
        let others ← compileChildren rest
        return child.placed fragment :: others

end

end Predicate

end BoundSql
