import BoundSql.Text.Digit
import BoundSql.Text.Reader

/-! Strings, keys, blanks and comments of TOML documents. -/

namespace BoundSql.Toml

open BoundSql.Text

def isSpace (char : Char) : Bool := char == ' ' || char == '\t'

def spaces : Reader Unit := do
  let _ ← Reader.takeWhile isSpace

def newline : Reader Unit :=
  Reader.char '\n' <|> Reader.chars ['\r', '\n']

def isBeyondAscii (char : Char) : Bool := 0x80 ≤ char.toNat

def isPrintable (char : Char) : Bool :=
  char == '\t' || (0x20 ≤ char.toNat && char.toNat ≤ 0x7E) || isBeyondAscii char

def comment : Reader Unit := do
  Reader.char '#'
  let _ ← Reader.takeWhile isPrintable

def lineEnd : Reader Unit := newline <|> Reader.atEnd

def restOfLine : Reader Unit := do
  spaces
  let _ ← Reader.optional comment
  lineEnd

def gap : Reader Unit := do
  let _ ← Reader.many ((do let _ ← Reader.takeSome isSpace) <|> newline <|> comment)

def isBasic (char : Char) : Bool := isPrintable char && char != '"' && char != '\\'

def isLiteral (char : Char) : Bool := isPrintable char && char != '\''

def scalarEscape (width : Nat) : Reader Char := do
  let digits ← Reader.takeExactly width isHexDigit
  scalar? (numberOf 16 digits)

def escapeSequence : Reader Char := do
  Reader.char '\\'
  let kind ← Reader.satisfy (fun _ => true)
  match kind with
  | 'b' => return '\x08'
  | 't' => return '\t'
  | 'n' => return '\n'
  | 'f' => return '\x0C'
  | 'r' => return '\r'
  | '"' => return '"'
  | '\\' => return '\\'
  | 'u' => scalarEscape 4
  | 'U' => scalarEscape 8
  | _ => failure

def basicString : Reader String := do
  Reader.char '"'
  let content ← Reader.many (Reader.satisfy isBasic <|> escapeSequence)
  Reader.char '"'
  return String.ofList content

def literalString : Reader String := do
  Reader.char '\''
  let content ← Reader.takeWhile isLiteral
  Reader.char '\''
  return String.ofList content

def newlineChar : Reader (List Char) := do
  newline
  return ['\n']

def lineContinuation : Reader (List Char) := do
  Reader.char '\\'
  spaces
  newline
  let _ ← Reader.many ((do let _ ← Reader.takeSome isSpace) <|> newline)
  return []

def oneChar (reader : Reader Char) : Reader (List Char) := do
  let char ← reader
  return [char]

def longBasicPiece : Reader (List Char) :=
  oneChar (Reader.satisfy isBasic) <|> lineContinuation <|> oneChar escapeSequence <|> newlineChar

def longLiteralPiece : Reader (List Char) := oneChar (Reader.satisfy isLiteral) <|> newlineChar

def ahead {α : Type} (reader : Reader α) : Reader Unit := fun input =>
  match reader input with
  | some _ => some ((), input)
  | none => none

def innerQuotes {α : Type} (quote : Char) (next : Reader α) : Reader (List Char) :=
  (do Reader.chars [quote, quote]; ahead next; return [quote, quote]) <|>
    (do Reader.char quote; ahead next; return [quote])

/-- A string over several lines between triple quotes. A line end right after the opening is left
out, and up to two quotes may stand before the closing. -/
def longString (quote : Char) (piece : Reader (List Char)) : Reader String := do
  let delimiter := Reader.chars [quote, quote, quote]
  delimiter
  let _ ← Reader.optional newline
  let content ← Reader.many (piece <|> innerQuotes quote piece)
  let final ← Reader.optional (innerQuotes quote delimiter)
  delimiter
  return String.ofList (content.flatten ++ final.getD [])

def string : Reader String :=
  longString '"' longBasicPiece <|> basicString <|> longString '\'' longLiteralPiece <|>
    literalString

def isBareKey (char : Char) : Bool :=
  isDigit char || ('a' ≤ char && char ≤ 'z') || ('A' ≤ char && char ≤ 'Z') || char == '_' ||
    char == '-'

def simpleKey : Reader String := do
  match ← Reader.peek with
  | some '"' => basicString
  | some '\'' => literalString
  | _ => String.ofList <$> Reader.takeSome isBareKey

def spacedKey : Reader String := do
  spaces
  let name ← simpleKey
  spaces
  return name

/-- Containers, and the parts of a dotted key, go fewer than this many levels deep. -/
def depthLimit : Nat := 80

structure Path where
  way : List String
  name : String

def path : Reader Path := do
  let names ← Reader.separated spacedKey (Reader.char '.')
  if depthLimit ≤ names.length then failure
  match names.getLast? with
  | some name => return ⟨names.dropLast, name⟩
  | none => failure

end BoundSql.Toml
