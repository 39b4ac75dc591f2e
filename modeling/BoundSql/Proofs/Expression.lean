import BoundSql.Predicate
import BoundSql.Proofs.Token

/-! Conditions as SQL means them: expressions of alternatives, each a list of factors, their truth
in three-valued logic, and their reading from text and values. AND binds tighter than OR, so the
factors that AND joins make up one alternative, and an expression in parentheses is a factor. -/

namespace BoundSql

inductive Truth
  | no
  | unknown
  | yes
  deriving DecidableEq

namespace Truth

def and : Truth → Truth → Truth
  | .no, _ => .no
  | _, .no => .no
  | .yes, other => other
  | other, .yes => other
  | .unknown, .unknown => .unknown

def or : Truth → Truth → Truth
  | .yes, _ => .yes
  | _, .yes => .yes
  | .no, other => other
  | other, .no => other
  | .unknown, .unknown => .unknown

def all (parts : List Truth) : Truth := parts.foldr and .yes

def any (parts : List Truth) : Truth := parts.foldr or .no

end Truth

def Connective.join : Connective → List Truth → Truth
  | .and, parts => Truth.all parts
  | .or, parts => Truth.any parts

abbrev Comparison := String → Operator → Value → Truth

inductive Factor
  | comparison (column : String) (operator : Operator) (value : Value)
  | membership (column : String) (negated : Bool) (values : List Value)
  | group (alternatives : List (List Factor))

/-- An expression holds if all factors of one of its alternatives hold. -/
abbrev Expression := List (List Factor)

mutual

def Factor.truth (compare : Comparison) : Factor → Truth
  | .comparison column operator value => compare column operator value
  | .membership column false values => Truth.any (values.map (compare column .eq))
  | .membership column true values => Truth.all (values.map (compare column .ne))
  | .group alternatives => alternativesTruth compare alternatives

def factorsTruth (compare : Comparison) : List Factor → Truth
  | [] => .yes
  | factor :: rest => (factor.truth compare).and (factorsTruth compare rest)

def alternativesTruth (compare : Comparison) : List (List Factor) → Truth
  | [] => .no
  | factors :: rest => (factorsTruth compare factors).or (alternativesTruth compare rest)

end

def Expression.truth? (compare : Comparison) : Expression → Option Truth
  | [] => none
  | alternatives => some (alternativesTruth compare alternatives)

/-- What an open parenthesis or the whole text holds so far: complete alternatives and the factors
of the one that is being read. -/
structure Frame where
  alternatives : List (List Factor) := []
  factors : List Factor := []

namespace Frame

def push (frame : Frame) (factor : Factor) : Frame :=
  { frame with factors := frame.factors ++ [factor] }

def next (frame : Frame) : Connective → Frame
  | .and => frame
  | .or => ⟨frame.alternatives ++ [frame.factors], []⟩

def expression (frame : Frame) : Expression := frame.alternatives ++ [frame.factors]

end Frame

inductive Phase
  | operand
  | operator (column : String) (words : List String)
  | list (column : String) (negated : Bool) (taken : List Value)
  | listed (column : String) (negated : Bool) (taken : List Value)
  | connective

structure ConditionReader where
  outer : List Frame
  current : Frame
  phase : Phase
  values : List Value

namespace ConditionReader

def finish (reader : ConditionReader) (factor : Factor) : ConditionReader :=
  { reader with current := reader.current.push factor, phase := .connective }

def compareNext (reader : ConditionReader) (column : String) (words : List String) :
    Option ConditionReader :=
  match Operator.ofWords? words, reader.values with
  | some operator, value :: rest =>
      if operator.takesList then none
      else some (finish { reader with values := rest } (.comparison column operator value))
  | _, _ => none

def openList (reader : ConditionReader) (column : String) (words : List String) :
    Option ConditionReader :=
  match Operator.ofWords? words with
  | some .within => some { reader with phase := .list column false [] }
  | some .notWithin => some { reader with phase := .list column true [] }
  | _ => none

def takeNext (reader : ConditionReader) (column : String) (negated : Bool) (taken : List Value) :
    Option ConditionReader :=
  match reader.values with
  | value :: rest =>
      some { reader with phase := .listed column negated (taken ++ [value]), values := rest }
  | [] => none

def close (reader : ConditionReader) : Option ConditionReader :=
  match reader.outer with
  | frame :: rest =>
      let inner := Factor.group reader.current.expression
      some (finish { reader with outer := rest, current := frame } inner)
  | [] => none

def step (reader : ConditionReader) (token : Token) : Option ConditionReader :=
  match reader.phase, token with
  | .operand, .opening =>
      some { reader with outer := reader.current :: reader.outer, current := {} }
  | .operand, .word text =>
      if Token.isKeyword text then none else some { reader with phase := .operator text [] }
  | .operator column words, .word text =>
      some { reader with phase := .operator column (words ++ [Token.upper text]) }
  | .operator column words, .sign text =>
      some { reader with phase := .operator column (words ++ [text]) }
  | .operator column words, .mark => reader.compareNext column words
  | .operator column words, .opening => reader.openList column words
  | .list column negated taken, .mark => reader.takeNext column negated taken
  | .listed column negated taken, .comma =>
      some { reader with phase := .list column negated taken }
  | .listed column negated taken, .closing =>
      some (reader.finish (.membership column negated taken))
  | .connective, .word text =>
      (Connective.ofTag? (Token.upper text)).map fun connective =>
        { reader with current := reader.current.next connective, phase := .operand }
  | .connective, .closing => reader.close
  | _, _ => none

def after (reader : ConditionReader) (chars : List Char) : Option ConditionReader :=
  (Token.ofChars chars).foldlM step reader

/-- `a = ? OR b = ? AND c = ?` is two alternatives. -/
example :
    [.word "a", .sign "=", .mark, .word "OR", .word "b", .sign "=", .mark, .word "AND", .word "c",
      .sign "=", .mark].foldlM step ⟨[], {}, .operand, [.null, .null, .null]⟩ =
      some ⟨[], ⟨[[.comparison "a" .eq .null]],
        [.comparison "b" .eq .null, .comparison "c" .eq .null]⟩, .connective, []⟩ := rfl

def result? (reader : ConditionReader) : Option (Expression × List Value) :=
  match reader.phase, reader.outer with
  | .connective, [] => some (reader.current.expression, reader.values)
  | _, _ => none

end ConditionReader

/-- Reads a text whose marks take the values in order, and gives the expression and the values left
over. A text without tokens is no condition. -/
def Expression.read (sql : String) (values : List Value) : Option (Expression × List Value) :=
  if Token.ofChars sql.toList = [] then some ([], values)
  else do
    let reader ← ConditionReader.after ⟨[], {}, .operand, values⟩ sql.toList
    reader.result?

end BoundSql
