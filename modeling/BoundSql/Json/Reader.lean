import BoundSql.Json.Number

/-! JSON documents: strict grammar, fewer than 128 containers inside one another, and no lone
surrogates. -/

namespace BoundSql.Json

open BoundSql.Text

def isSpace (char : Char) : Bool := char == ' ' || char == '\t' || char == '\n' || char == '\r'

def spaces : Reader Unit := do
  let _ ← Reader.takeWhile isSpace

def keyword (text : String) (value : Json) : Reader Json := do
  Reader.literal text
  return value

def codeUnit : Reader Nat := do
  let digits ← Reader.takeExactly 4 isHexDigit
  return numberOf 16 digits

def isHighSurrogate (unit : Nat) : Bool := 0xD800 ≤ unit && unit ≤ 0xDBFF

def isLowSurrogate (unit : Nat) : Bool := 0xDC00 ≤ unit && unit ≤ 0xDFFF

def unicodeEscape : Reader Char := do
  let unit ← codeUnit
  if isHighSurrogate unit then
    Reader.chars ['\\', 'u']
    let second ← codeUnit
    if isLowSurrogate second then
      scalar? (0x10000 + (unit - 0xD800) * 0x400 + (second - 0xDC00))
    else failure
  else scalar? unit

def escapeSequence : Reader Char := do
  Reader.char '\\'
  let kind ← Reader.satisfy (fun _ => true)
  match kind with
  | '"' => return '"'
  | '\\' => return '\\'
  | '/' => return '/'
  | 'b' => return '\x08'
  | 'f' => return '\x0C'
  | 'n' => return '\n'
  | 'r' => return '\r'
  | 't' => return '\t'
  | 'u' => unicodeEscape
  | _ => failure

def plainChar : Reader Char :=
  Reader.satisfy fun char => 0x20 ≤ char.toNat && char != '"' && char != '\\'

def stringLiteral : Reader String := do
  Reader.char '"'
  let content ← Reader.many (plainChar <|> escapeSequence)
  Reader.char '"'
  return String.ofList content

def spaced {α : Type} (item : Reader α) : Reader α := do
  spaces
  let result ← item
  spaces
  return result

def listed {α : Type} (opening closing : Char) (item : Reader α) : Reader (List α) := do
  Reader.char opening
  spaces
  match ← Reader.peek with
  | some char =>
      if char = closing then
        Reader.char closing
        return []
      else
        let items ← Reader.separated (spaced item) (Reader.char ',')
        Reader.char closing
        return items
  | none => failure

def member (value : Reader Json) : Reader (String × Json) := do
  let name ← stringLiteral
  spaces
  Reader.char ':'
  spaces
  let content ← value
  return (name, content)

def scalar : Reader Json := do
  match ← Reader.peek with
  | some '"' => .text <$> stringLiteral
  | some 'n' => keyword "null" .null
  | some 't' => keyword "true" (.bool true)
  | some 'f' => keyword "false" (.bool false)
  | _ => number

def nested : Nat → Reader Json
  | 0 => scalar
  | depth + 1 => do
      match ← Reader.peek with
      | some '[' => .array <$> listed '[' ']' (nested depth)
      | some '\x7b' => .object <$> listed '\x7b' '\x7d' (member (nested depth))
      | _ => scalar

def deepest : Nat := 127

/-- The document as it stands, repeated members included. -/
def readRaw? (document : String) : Option Json :=
  (spaced (nested deepest)).run? document

def read? (document : String) : Option Json := (readRaw? document).map settle

end BoundSql.Json
