/-! Readers of text: a reader takes a piece off the front of a list of characters, or refuses.
Repetition is bounded by the text itself, because every repeated piece takes a character. -/

namespace BoundSql

abbrev Reader (α : Type) := StateT (List Char) Option α

namespace Reader

variable {α β : Type}

def run? (reader : Reader α) (text : String) : Option α :=
  match reader.run text.toList with
  | some (result, []) => some result
  | _ => none

def peek : Reader (Option Char) := fun input => some (input.head?, input)

def satisfy (accepts : Char → Bool) : Reader Char
  | char :: rest => if accepts char then some (char, rest) else none
  | [] => none

def char (wanted : Char) : Reader Unit := do
  let _ ← satisfy (· == wanted)

def chars : List Char → Reader Unit
  | [] => pure ()
  | wanted :: rest => do
      char wanted
      chars rest

def literal (text : String) : Reader Unit := chars text.toList

def atEnd : Reader Unit
  | [] => some ((), [])
  | _ :: _ => none

def takeWhile (accepts : Char → Bool) : Reader (List Char) := fun input =>
  some (input.takeWhile accepts, input.dropWhile accepts)

def takeSome (accepts : Char → Bool) : Reader (List Char) := do
  let first ← satisfy accepts
  let rest ← takeWhile accepts
  return first :: rest

def takeExactly (count : Nat) (accepts : Char → Bool) : Reader (List Char) := fun input =>
  let taken := input.take count
  if taken.length = count ∧ taken.all accepts = true then some (taken, input.drop count) else none

def optional (reader : Reader α) : Reader (Option α) := fun input =>
  match reader input with
  | some (result, rest) => some (some result, rest)
  | none => some (none, input)

/-- Repeats `item` until it refuses, at most once per character of `bound`. -/
def manyWithin (item : Reader α) : List Char → Reader (List α)
  | [], input => some ([], input)
  | _ :: bound, input =>
      match item input with
      | none => some ([], input)
      | some (result, rest) =>
          match manyWithin item bound rest with
          | none => none
          | some (results, final) => some (result :: results, final)

def many (item : Reader α) : Reader (List α) := fun input => manyWithin item input input

def separated (item : Reader α) (separator : Reader Unit) : Reader (List α) := do
  let first ← item
  let rest ← many (do separator; item)
  return first :: rest

end Reader

end BoundSql
