/-! Blank characters, and the cuts that tags and keys need: trimming, words, and the part
before a mark. -/

namespace BoundSql.Text

/-- The characters with the Unicode property `White_Space`. -/
def isBlank (char : Char) : Bool :=
  let code := char.toNat
  (9 ≤ code && code ≤ 13) || code == 0x20 || code == 0x85 || code == 0xA0 || code == 0x1680 ||
    (0x2000 ≤ code && code ≤ 0x200A) || code == 0x2028 || code == 0x2029 || code == 0x202F ||
    code == 0x205F || code == 0x3000

theorem isBlank_of_isWhitespace (char : Char) (white : char.isWhitespace = true) :
    isBlank char = true := by
  simp only [Char.isWhitespace, Bool.or_eq_true, decide_eq_true_eq] at white
  rcases white with ((space | tab) | carriageReturn) | lineFeed <;> subst_vars <;> decide

def trimStart (chars : List Char) : List Char := chars.dropWhile isBlank

def trimEnd (chars : List Char) : List Char := (chars.reverse.dropWhile isBlank).reverse

def trim (chars : List Char) : List Char := trimEnd (trimStart chars)

def wordsFrom (current : List Char) : List Char → List (List Char)
  | [] => if current.isEmpty then [] else [current.reverse]
  | char :: rest =>
      if isBlank char then
        if current.isEmpty then wordsFrom [] rest else current.reverse :: wordsFrom [] rest
      else wordsFrom (char :: current) rest

def words (chars : List Char) : List (List Char) := wordsFrom [] chars

def beforeMark (mark : Char) (chars : List Char) : List Char := chars.takeWhile (· != mark)

def splitAtBlank (chars : List Char) : List Char × Option (List Char) :=
  match chars.dropWhile (!isBlank ·) with
  | [] => (chars, none)
  | _ :: after => (chars.takeWhile (!isBlank ·), some after)

def upper (chars : List Char) : List Char := chars.map Char.toUpper

/-- Letters a to z for A to Z; every other character stays. -/
def lower (chars : List Char) : List Char := chars.map Char.toLower

end BoundSql.Text
