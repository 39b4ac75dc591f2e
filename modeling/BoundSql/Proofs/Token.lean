import BoundSql.Text.Blank
import Mathlib.Data.List.SplitBy

/-! Tokens of SQL. A run of word characters or of comparison signs is one token, blanks are none,
and every other character stands alone, so a text can be cut beside such a character. -/

namespace BoundSql

inductive Token
  | word (text : String)
  | sign (text : String)
  | mark
  | opening
  | closing
  | comma
  | other (char : Char)
  deriving DecidableEq

namespace Token

def isWordChar (char : Char) : Bool := char.isAlphanum || char == '_' || char == '.'

def isSignChar (char : Char) : Bool := char == '=' || char == '!' || char == '<' || char == '>'

def joins (first second : Char) : Bool :=
  (isWordChar first && isWordChar second) || (isSignChar first && isSignChar second)

def ofAlone : Char → Token
  | '?' => .mark
  | '(' => .opening
  | ')' => .closing
  | ',' => .comma
  | char => .other char

def ofRun? : List Char → Option Token
  | [] => none
  | char :: rest =>
      if isWordChar char then some (.word (String.ofList (char :: rest)))
      else if isSignChar char then some (.sign (String.ofList (char :: rest)))
      else if char.isWhitespace then none
      else some (ofAlone char)

def ofChars (chars : List Char) : List Token := (chars.splitBy joins).filterMap ofRun?

def upper (text : String) : String := String.ofList (text.toList.map Char.toUpper)

def keywords : List String :=
  ["AND", "AS", "ASC", "BY", "CREATE", "DEFAULT", "DELETE", "DESC", "DISTINCT", "DROP", "EXISTS",
    "FROM", "GLOB", "GROUP", "IF", "IN", "INSERT", "INTO", "IS", "JOIN", "LEFT", "LIKE", "LIMIT",
    "NOT", "NULL", "ON", "OR", "ORDER", "PRIMARY", "SELECT", "SET", "TABLE", "UPDATE", "VALUES",
    "WHERE"]

def isKeyword (text : String) : Bool := keywords.contains (upper text)

/-- A name that stands in a statement as one word. -/
def isPlainName (name : String) : Bool :=
  name != "" && name.toList.all isWordChar && !isKeyword name

def isIdentifier (name : String) : Bool := name != "" && name.toList.all isWordChar

def isAlone (char : Char) : Bool := !isWordChar char && !isSignChar char

theorem isBlank_of_isWordChar {char : Char} (word : isWordChar char = true) :
    Text.isBlank char = false := by
  have alphanumeric : char.isAlphanum = ((char.isUpper || char.isLower) || char.isDigit) := rfl
  have uppers : char.isUpper = decide (65 ≤ char.val ∧ char.val ≤ 90) := rfl
  have lowers : char.isLower = (decide (97 ≤ char.val) && decide (char.val ≤ 122)) := rfl
  have digits : char.isDigit = (decide (48 ≤ char.val) && decide (char.val ≤ 57)) := rfl
  have code : char.toNat = char.val.toNat := rfl
  simp only [isWordChar, alphanumeric, uppers, lowers, digits, Bool.or_eq_true, Bool.and_eq_true,
    decide_eq_true_eq, beq_iff_eq, UInt32.le_iff_toNat_le] at word
  simp only [Text.isBlank, code, Bool.or_eq_false_iff, Bool.and_eq_false_iff,
    decide_eq_false_iff_not, beq_eq_false_iff_ne]
  rcases word with ((((upper | lower) | digit) | rfl) | rfl)
  · simp at upper
    omega
  · simp at lower
    omega
  · simp at digit
    omega
  · decide
  · decide

theorem joins_of_isAlone {char : Char} (alone : isAlone char = true) (other : Char) :
    joins char other = false ∧ joins other char = false := by
  simp only [isAlone, Bool.and_eq_true, Bool.not_eq_true'] at alone
  simp [joins, alone.1, alone.2]

@[simp] theorem ofChars_nil : ofChars [] = [] := rfl

theorem ofChars_append_cons {char : Char} (alone : isAlone char = true) (left right : List Char) :
    ofChars (left ++ char :: right) = ofChars left ++ (ofChars [char] ++ ofChars right) := by
  have before : (left ++ char :: right).splitBy joins =
      left.splitBy joins ++ (char :: right).splitBy joins := by
    apply List.splitBy_append_cons
    intro last _
    exact (joins_of_isAlone alone last).2
  have after : (char :: right).splitBy joins = [char].splitBy joins ++ right.splitBy joins := by
    apply List.splitBy_append (l := [char])
    intro last member next _
    simp only [List.getLast?_singleton, Option.mem_def, Option.some.injEq] at member
    exact member ▸ (joins_of_isAlone alone next).1
  simp only [ofChars, before, after, List.filterMap_append]

theorem ofChars_cons {char : Char} (alone : isAlone char = true) (right : List Char) :
    ofChars (char :: right) = ofChars [char] ++ ofChars right := by
  simpa using ofChars_append_cons alone [] right

theorem ofChars_append_space (left right : List Char) :
    ofChars (left ++ ' ' :: right) = ofChars left ++ ofChars right := by
  rw [ofChars_append_cons rfl]
  rfl

theorem ofChars_append_closing (left right : List Char) :
    ofChars (left ++ ')' :: right) = ofChars left ++ .closing :: ofChars right := by
  rw [ofChars_append_cons rfl]
  rfl

@[simp] theorem ofChars_space (right : List Char) : ofChars (' ' :: right) = ofChars right := by
  rw [ofChars_cons rfl]
  rfl

@[simp] theorem ofChars_mark (right : List Char) :
    ofChars ('?' :: right) = .mark :: ofChars right := by
  rw [ofChars_cons rfl]
  rfl

@[simp] theorem ofChars_comma (right : List Char) :
    ofChars (',' :: right) = .comma :: ofChars right := by
  rw [ofChars_cons rfl]
  rfl

@[simp] theorem ofChars_opening (right : List Char) :
    ofChars ('(' :: right) = .opening :: ofChars right := by
  rw [ofChars_cons rfl]
  rfl

@[simp] theorem ofChars_closing (right : List Char) :
    ofChars (')' :: right) = .closing :: ofChars right := by
  rw [ofChars_cons rfl]
  rfl

theorem ofChars_word {chars : List Char} (filled : chars ≠ [])
    (wordChars : ∀ char ∈ chars, isWordChar char = true) :
    ofChars chars = [.word (String.ofList chars)] := by
  have run : chars.IsChain fun first second => joins first second = true := by
    apply List.Pairwise.isChain
    apply List.pairwise_of_forall_mem_list
    intro first firstMember second secondMember
    simp [joins, wordChars first firstMember, wordChars second secondMember]
  rw [ofChars, List.splitBy_of_isChain filled run]
  cases chars with
  | nil => exact absurd rfl filled
  | cons first rest => simp [ofRun?, wordChars first (by simp)]

theorem ofChars_plainName {name : String} (plain : isPlainName name = true) :
    ofChars name.toList = [.word name] := by
  simp only [isPlainName, Bool.and_eq_true, bne_iff_ne, List.all_eq_true] at plain
  have filled : name.toList ≠ [] := by simpa using plain.1.1
  rw [ofChars_word filled plain.1.2, String.ofList_toList]

end Token

end BoundSql
