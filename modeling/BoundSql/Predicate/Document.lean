import BoundSql.Json.Reader
import BoundSql.Predicate
import BoundSql.Tag

/-! Predicates written with compound keys: a key names a column and perhaps an operator, and a
suffix after `#` keeps keys apart. JSON objects of such keys are predicate trees. -/

namespace BoundSql

/-- A JSON scalar as a value; a whole number beyond the signed 64-bit range is a double. -/
def Value.ofJson : Json → Except Error Value
  | .null => .ok .null
  | .bool value => .ok (.bool value)
  | .int value =>
      if Int64.minValue.toInt ≤ value ∧ value ≤ Int64.maxValue.toInt then
        .ok (.int (Int64.ofInt value))
      else .ok (.double (Binary64.ofNat (value < 0) value.natAbs))
  | .double value => .ok (.double value)
  | .text value => .ok (.text value)
  | found => .error (.notScalar found)

def Value.listOfJson : List Json → Except Error (List Value)
  | [] => .ok []
  | item :: rest => do
      let value ← Value.ofJson item
      let others ← Value.listOfJson rest
      return value :: others

def Value.ofDocument (document : String) : Except Error Value := do
  let json ← Error.ifNone .malformedDocument (Json.read? document)
  Value.ofJson json

def Operand.ofJson : Json → Except Error Operand
  | .array items => .list <$> Value.listOfJson items
  | json => .scalar <$> Value.ofJson json

namespace Predicate

def keyBody (key : String) : List Char := Text.trim (Text.beforeMark '#' key.toList)

/-- The condition of a compound key: the column up to the first blank, and the operator after it. -/
def ofKey (key : String) (operand : Operand) : Except Error Predicate := do
  let body := keyBody key
  let (column, written) := Text.splitAtBlank body
  let column := String.ofList column
  let operator ← match written with
    | some text => some <$> Operator.read (String.ofList text)
    | none => pure none
  if column = "" then .error (.keyWithoutColumn (String.ofList body))
  else if (Connective.ofTag? column).isSome then .error (.connectiveAsColumn column)
  else .ok (.condition ⟨column, operator, operand⟩)

mutual

def ofMember (key : String) (json : Json) : Except Error Predicate :=
  match Connective.ofTag? (String.ofList (keyBody key)) with
  | some connective =>
      match json with
      | .object members => .group connective <$> ofMembers members
      | found => .error (.groupNotObject key found)
  | none => do
      let operand ← Operand.ofJson json
      ofKey key operand

def ofMembers : List (String × Json) → Except Error (List Predicate)
  | [] => .ok []
  | (key, json) :: rest => do
      let first ← ofMember key json
      let others ← ofMembers rest
      return first :: others

end

/-- All members together, except that a group alone stands for itself. -/
def ofChildren : List Predicate → Predicate
  | [.group connective children] => .group connective children
  | children => .group .and children

def ofJson : Json → Except Error Predicate
  | .object members => ofChildren <$> ofMembers members
  | found => .error (.treeNotObject found)

def ofDocument (document : String) : Except Error Predicate := do
  let json ← Error.ifNone .malformedDocument (Json.read? document)
  ofJson json

end Predicate

end BoundSql
