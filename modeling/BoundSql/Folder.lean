import BoundSql.Keyed

/-! Paths and the files below a working folder. -/

namespace BoundSql

namespace FilePath

def partsFrom (current : List Char) : List Char → List (List Char)
  | [] => [current.reverse]
  | char :: rest =>
      if char = '/' then current.reverse :: partsFrom [] rest else partsFrom (char :: current) rest

def parts (path : String) : List (List Char) := partsFrom [] path.toList

/-- The parts that go somewhere: not empty, and not the folder that they stand in. -/
def steps (path : String) : List (List Char) :=
  (parts path).filter fun part => part ≠ [] ∧ part ≠ ['.']

/-- What follows the last dot of the last step. A step that only begins with a dot, or that leads
upwards, has no extension. -/
def extension? (path : String) : Option String :=
  match (steps path).getLast? with
  | none => none
  | some step =>
      if step = ['.', '.'] then none
      else
        let after := step.reverse.takeWhile (· != '.')
        match step.reverse.dropWhile (· != '.') with
        | [] => none
        | [_] => none
        | _ :: _ => some (String.ofList after.reverse)

/-- Whether a path leads nowhere but to the working folder, the root or folders above. -/
def leadsUpwards (path : String) : Bool :=
  path ≠ "" && (steps path).all (· == ['.', '.'])

end FilePath

inductive FileError
  | absent
  | isFolder
  | notText
  deriving DecidableEq

def FileError.message : FileError → String
  | .absent => "No such file or directory (os error 2)"
  | .isFolder => "Is a directory (os error 21)"
  | .notText => "stream did not contain valid UTF-8"

inductive FileEntry
  | file (bytes : ByteArray)
  | folder

structure Folder where
  entries : Keyed FileEntry

namespace Folder

def read (folder : Folder) (path : String) : Except FileError String :=
  match Keyed.find? path folder.entries with
  | some (.file bytes) =>
      match String.fromUTF8? bytes with
      | some text => .ok text
      | none => .error .notText
  | some .folder => .error .isFolder
  | none => if FilePath.leadsUpwards path then .error .isFolder else .error .absent

end Folder

end BoundSql
