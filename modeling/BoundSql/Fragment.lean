import BoundSql.Value

/-! Fragments of SQL: pieces of text and slots for values. The text of a slot is a question mark,
so the values stand in the order of their marks. -/

namespace BoundSql

inductive Piece
  | text (content : String)
  | slot (value : Value)
  deriving DecidableEq

namespace Piece

def sql : Piece → String
  | .text content => content
  | .slot _ => "?"

def value? : Piece → Option Value
  | .text _ => none
  | .slot value => some value

end Piece

abbrev Fragment := List Piece

namespace Fragment

def sql (fragment : Fragment) : String := String.join (fragment.map Piece.sql)

def values (fragment : Fragment) : List Value := fragment.filterMap Piece.value?

/-- The question marks in the text, those of column names and other pieces included. -/
def markCount (fragment : Fragment) : Nat := fragment.sql.toList.count '?'

def isBlank (fragment : Fragment) : Bool := fragment.sql == ""

def ofText (content : String) : Fragment := [.text content]

def joined (separator : String) : List Fragment → Fragment
  | [] => []
  | [last] => last
  | first :: rest => first ++ .text separator :: joined separator rest

def parenthesized (fragment : Fragment) : Fragment := .text "(" :: (fragment ++ [.text ")"])

@[simp] theorem sql_append (first second : Fragment) :
    sql (first ++ second) = sql first ++ sql second := by
  apply String.ext
  simp [sql, String.toList_join]

@[simp] theorem values_append (first second : Fragment) :
    values (first ++ second) = values first ++ values second := by
  simp [values]

end Fragment

end BoundSql
