import BoundSql.Text.Digit
import BoundSql.Text.Graphic

/-! Quoted texts as messages show them: between double quotes, with a backslash before a quote
and a backslash, and the code of every character that would leave no mark. -/

namespace BoundSql.Text

def quotedChar (char : Char) : List Char :=
  if char = '\x00' then ['\\', '0']
  else if char = '\t' then ['\\', 't']
  else if char = '\r' then ['\\', 'r']
  else if char = '\n' then ['\\', 'n']
  else if char = '\\' then ['\\', '\\']
  else if char = '"' then ['\\', '"']
  else if isGraphic char then [char]
  else ['\\', 'u', '{'] ++ digitsOf 16 char.toNat ++ ['}']

def quoted (text : String) : String :=
  String.ofList ('"' :: (text.toList.flatMap quotedChar ++ ['"']))

end BoundSql.Text
