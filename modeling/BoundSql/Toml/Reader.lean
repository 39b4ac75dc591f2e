import BoundSql.Toml.Scalar
import BoundSql.Toml.Table

/-! TOML documents as JSON objects, members in the order in which the tables were completed. -/

namespace BoundSql.Toml

def pair (value : Reader Json) : Reader (Path × Json) := do
  let key ← path
  Reader.char '='
  spaces
  let content ← value
  return (key, content)

/-- Items with commas between them and perhaps after the last one, with gaps anywhere. -/
def array (value : Reader Json) : Reader (List Json) := do
  Reader.char '['
  let item : Reader Json := do
    gap
    let content ← value
    gap
    return content
  let items ← Reader.optional (Reader.separated item (Reader.char ','))
  if items.isSome then
    let _ ← Reader.optional (Reader.char ',')
  gap
  Reader.char ']'
  return items.getD []

def inlineTable (value : Reader Json) : Reader Json := do
  Reader.char '\x7b'
  let member : Reader (Path × Json) := do
    let content ← pair value
    spaces
    return content
  let pairs ← Reader.optional (Reader.separated member (Reader.char ','))
  spaces
  Reader.char '\x7d'
  let table ← (Table.empty .own).addPairs (pairs.getD [])
  return (Node.ofTable table).toJson

def nested : Nat → Reader Json
  | 0 => scalar
  | depth + 1 => do
      match ← Reader.peek with
      | some '[' => .array <$> array (nested depth)
      | some '\x7b' => inlineTable (nested depth)
      | _ => scalar

def value : Reader Json := nested (depthLimit - 1)

def emptyLines : Reader Unit := do
  spaces
  let _ ← Reader.many (do
    newline <|> (do comment; lineEnd)
    spaces)

def pairLine : Reader (Path × Json) := do
  let content ← pair value
  restOfLine
  emptyLines
  return content

def elementHeader : Reader Path := do
  Reader.chars ['[', '[']
  let key ← path
  Reader.chars [']', ']']
  return key

def tableHeader : Reader Path := do
  Reader.char '['
  let key ← path
  Reader.char ']'
  return key

def tableSection : Reader Section := do
  let element ← Reader.optional elementHeader
  let key ← match element with
    | some key => pure key
    | none => tableHeader
  restOfLine
  emptyLines
  let pairs ← Reader.many pairLine
  return ⟨element.isSome, key, pairs⟩

def byteOrderMark : Char := '\uFEFF'

def document : Reader Json := do
  let _ ← Reader.optional (Reader.char byteOrderMark)
  emptyLines
  let pairs ← Reader.many pairLine
  let sections ← Reader.many tableSection
  Reader.atEnd
  let root ← (Table.empty .own).addPairs pairs
  let whole ← root.addSections sections
  return (Node.ofTable whole).toJson

def read? (text : String) : Option Json := document.run? text

end BoundSql.Toml
