import BoundSql.Text.Blank

/-! Comparison operators and the connectives that join conditions. -/

namespace BoundSql

inductive Operator
  | eq
  | ne
  | unequal
  | lt
  | le
  | gt
  | ge
  | like
  | notLike
  | glob
  | within
  | notWithin
  | is
  | isNot
  deriving DecidableEq

namespace Operator

def sql : Operator → String
  | .eq => "="
  | .ne => "!="
  | .unequal => "<>"
  | .lt => "<"
  | .le => "<="
  | .gt => ">"
  | .ge => ">="
  | .like => "LIKE"
  | .notLike => "NOT LIKE"
  | .glob => "GLOB"
  | .within => "IN"
  | .notWithin => "NOT IN"
  | .is => "IS"
  | .isNot => "IS NOT"

def takesList : Operator → Bool
  | .within => true
  | .notWithin => true
  | _ => false

def singular : Operator → Operator
  | .within => .eq
  | .notWithin => .ne
  | operator => operator

def ofWords? : List String → Option Operator
  | ["="] => some .eq
  | ["=="] => some .eq
  | ["!="] => some .ne
  | ["<>"] => some .unequal
  | ["<"] => some .lt
  | ["<="] => some .le
  | [">"] => some .gt
  | [">="] => some .ge
  | ["LIKE"] => some .like
  | ["NOT", "LIKE"] => some .notLike
  | ["GLOB"] => some .glob
  | ["IN"] => some .within
  | ["NOT", "IN"] => some .notWithin
  | ["IS"] => some .is
  | ["IS", "NOT"] => some .isNot
  | _ => none

/-- Letters count in either case, and words stand apart by any blanks. -/
def ofText? (text : String) : Option Operator :=
  ofWords? ((Text.words text.toList).map fun word => String.ofList (Text.upper word))

end Operator

inductive Connective
  | and
  | or
  deriving DecidableEq

namespace Connective

def sql : Connective → String
  | .and => "AND"
  | .or => "OR"

def ofTag? (tag : String) : Option Connective :=
  if tag = "AND" then some .and else if tag = "OR" then some .or else none

end Connective

end BoundSql
