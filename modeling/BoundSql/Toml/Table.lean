import BoundSql.Json
import BoundSql.Keyed
import BoundSql.Toml.Text

/-! The tree that a TOML document builds. A table remembers how it came to be, because only some
tables may still be opened by a header or reached by a dotted key. -/

namespace BoundSql.Toml

/-- How a table came to be: by a header or braces of its own, as the parent of one, or as a part
of a dotted key. -/
inductive Origin
  | own
  | parent
  | dotted
  deriving DecidableEq

inductive Node
  | value (content : Json)
  | table (origin : Origin) (entries : List (String × Node))
  | tables (elements : List (List (String × Node)))

structure Table where
  origin : Origin
  entries : List (String × Node)

namespace Node

def ofTable (table : Table) : Node := .table table.origin table.entries

mutual

def toJson : Node → Json
  | .value content => content
  | .table _ entries => .object (entriesJson entries)
  | .tables elements => .array (elementsJson elements)

def entriesJson : List (String × Node) → List (String × Json)
  | [] => []
  | (name, node) :: rest => (name, node.toJson) :: entriesJson rest

def elementsJson : List (List (String × Node)) → List Json
  | [] => []
  | entries :: rest => .object (entriesJson entries) :: elementsJson rest

end

end Node

namespace Table

def empty (origin : Origin) : Table := ⟨origin, []⟩

def find? (table : Table) (name : String) : Option Node := Keyed.find? name table.entries

def put (table : Table) (name : String) (node : Node) : Table :=
  { table with entries := Keyed.put name node table.entries }

def erase (table : Table) (name : String) : Table :=
  { table with entries := Keyed.erase name table.entries }

/-- Changes the table at the end of `way`, making missing tables on it with the origin `made`. A
name of an array of tables stands for its last table. Dotted keys may not pass through tables that
have a header or braces of their own. -/
def change (made : Origin) (update : Table → Option Table) : List String → Table → Option Table
  | [], table => update table
  | name :: way, table =>
      match table.find? name with
      | none => do
          let child ← change made update way (empty made)
          return table.put name (.ofTable child)
      | some (.value _) => none
      | some (.table origin entries) =>
          if made = .dotted ∧ origin = .own then none
          else do
            let child ← change made update way ⟨origin, entries⟩
            return table.put name (.ofTable child)
      | some (.tables elements) =>
          match elements.getLast? with
          | none => none
          | some entries => do
              let child ← change made update way ⟨.own, entries⟩
              return table.put name (.tables (elements.dropLast ++ [child.entries]))

/-- Adds a value under a name that is new. A dotted key ends in a table made by dotted keys, a plain
one in a table that was not. -/
def addHere (isPlain : Bool) (name : String) (content : Json) (table : Table) : Option Table :=
  if decide (table.origin = .dotted) == isPlain then none
  else
    match table.find? name with
    | some _ => none
    | none => some (table.put name (.value content))

def addPair (table : Table) (path : Path) (content : Json) : Option Table :=
  change .dotted (addHere path.way.isEmpty path.name content) path.way table

def addPairs (table : Table) : List (Path × Json) → Option Table
  | [] => some table
  | (path, content) :: rest => do
      let longer ← table.addPair path content
      longer.addPairs rest

/-- Opens the table `name` of `parent` and puts it last. It may exist already only as the parent of
tables with headers. -/
def openTable (name : String) (pairs : List (Path × Json)) (parent : Table) : Option Table := do
  let start ← match parent.find? name with
    | none => some []
    | some (.table .parent entries) => some entries
    | some _ => none
  let filled ← addPairs ⟨.own, start⟩ pairs
  return (parent.erase name).put name (.ofTable filled)

def openElement (name : String) (pairs : List (Path × Json)) (parent : Table) : Option Table := do
  let earlier ← match parent.find? name with
    | none => some []
    | some (.tables elements) => some elements
    | some _ => none
  let filled ← addPairs (empty .own) pairs
  return parent.put name (.tables (earlier ++ [filled.entries]))

end Table

structure Section where
  isElement : Bool
  path : Path
  pairs : List (Path × Json)

def Table.addSection (root : Table) (part : Section) : Option Table :=
  let opening := if part.isElement then Table.openElement else Table.openTable
  root.change .parent (opening part.path.name part.pairs) part.path.way

def Table.addSections (root : Table) : List Section → Option Table
  | [] => some root
  | part :: rest => do
      let larger ← root.addSection part
      larger.addSections rest

end BoundSql.Toml
