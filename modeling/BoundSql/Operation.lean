import BoundSql.Text.Blank

/-! The kinds of statement and of join. -/

namespace BoundSql

inductive Operation
  | select
  | insert
  | update
  | delete
  | count
  | createTable
  | dropTable
  deriving DecidableEq

namespace Operation

def tag : Operation → String
  | .select => "select"
  | .insert => "insert"
  | .update => "update"
  | .delete => "delete"
  | .count => "count"
  | .createTable => "create_table"
  | .dropTable => "drop_table"

/-- Reads a tag without regard to case, hyphens and underscores. -/
def ofText? (text : String) : Option Operation :=
  let kept := (Text.trim text.toList).filter fun char => char != '-' && char != '_'
  match String.ofList (Text.lower kept) with
  | "select" => some .select
  | "insert" => some .insert
  | "update" => some .update
  | "delete" => some .delete
  | "count" => some .count
  | "createtable" => some .createTable
  | "droptable" => some .dropTable
  | _ => none

end Operation

inductive JoinKind
  | left
  deriving DecidableEq

namespace JoinKind

def sql : JoinKind → String
  | .left => "LEFT JOIN"

def ofText? (text : String) : Option JoinKind :=
  if String.ofList (Text.lower (Text.trim text.toList)) = "left" then some .left else none

end JoinKind

end BoundSql
