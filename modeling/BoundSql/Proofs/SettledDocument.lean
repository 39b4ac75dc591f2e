import BoundSql.Settings.Document

/-! Documents are settled. However a JSON or TOML text is written, no object of the value that is
read from it names a member twice. For JSON this is what settling does; for TOML every table
refuses a second value for a name, and every step that builds the tree keeps it so. -/

namespace BoundSql

namespace Json

mutual

theorem settled_settle : ∀ json : Json, json.settle.Settled
  | .null | .bool _ | .int _ | .double _ | .text _ => trivial
  | .array items => settled_array_iff.mpr (settled_settleItems items)
  | .object members => settled_object_iff.mpr ⟨Keyed.keys_ofList_nodup _, fun member kept =>
      settled_settleMembers members member (Keyed.mem_of_mem_ofList kept)⟩

theorem settled_settleItems : ∀ (items : List Json), ∀ item ∈ settleItems items, item.Settled
  | [] => by simp [settleItems]
  | first :: rest => by
      simp only [settleItems, List.forall_mem_cons]
      exact ⟨settled_settle first, settled_settleItems rest⟩

theorem settled_settleMembers : ∀ (members : List (String × Json)),
    ∀ member ∈ settleMembers members, member.2.Settled
  | [] => by simp [settleMembers]
  | (_, value) :: rest => by
      simp only [settleMembers, List.forall_mem_cons]
      exact ⟨settled_settle value, settled_settleMembers rest⟩

end

theorem settled_of_read? {document : String} {json : Json} (found : read? document = some json) :
    json.Settled := by
  obtain ⟨written, _, rfl⟩ := Option.map_eq_some_iff.mp found
  exact settled_settle written

end Json

namespace Reader

variable {α β : Type} {property : α → Prop} {wanted : β → Prop}

def Gives (property : α → Prop) (reader : Reader α) : Prop :=
  ∀ input, ∀ taken ∈ reader input, property taken.1

theorem Gives.pure {result : α} (holds : property result) :
    Gives property (Pure.pure result : Reader α) := by
  intro input taken member
  cases member
  exact holds

theorem Gives.failure : Gives property (failure : Reader α) := by
  intro input taken member
  cases member

theorem Gives.lift {result : Option α} (holds : ∀ value ∈ result, property value) :
    Gives property (liftM result : Reader α) := by
  intro input taken member
  obtain ⟨value, given, same⟩ := Option.bind_eq_some_iff.mp member
  cases same
  exact holds value given

theorem Gives.bind {first : Reader α} {next : α → Reader β} (gives : Gives property first)
    (then_gives : ∀ result, property result → Gives wanted (next result)) :
    Gives wanted (first >>= next) := by
  intro input taken member
  obtain ⟨⟨result, rest⟩, read, later⟩ := Option.bind_eq_some_iff.mp member
  exact then_gives result (gives input (result, rest) read) rest taken later

theorem Gives.any (reader : Reader α) : Gives (fun _ => True) reader := fun _ _ _ => trivial

theorem Gives.after {first : Reader α} {next : α → Reader β}
    (gives : ∀ result, Gives wanted (next result)) : Gives wanted (first >>= next) :=
  (Gives.any first).bind fun result _ => gives result

theorem Gives.orElse {first second : Reader α} (gives : Gives property first)
    (otherwise : Gives property second) : Gives property (first <|> second) := by
  intro input taken member
  have either : (first input <|> second input) = some taken := member
  cases read : first input with
  | none => exact otherwise input taken (by simpa [read] using either)
  | some result => exact gives input taken (by simpa [read] using either)

theorem Gives.map {reader : Reader α} {change : α → β}
    (gives : Gives (fun result => wanted (change result)) reader) :
    Gives wanted (change <$> reader) := by
  intro input taken member
  obtain ⟨⟨result, rest⟩, read, same⟩ := Option.bind_eq_some_iff.mp member
  cases same
  exact gives input (result, rest) read

theorem Gives.optional {reader : Reader α} (gives : Gives property reader) :
    Gives (fun found => ∀ result ∈ found, property result) reader.optional := by
  intro input taken member result found
  cases read : reader input with
  | none =>
      have same : (none, input) = taken := by simpa [Reader.optional, read] using member
      subst same
      cases found
  | some outcome =>
      have same : (some outcome.1, outcome.2) = taken := by
        simpa [Reader.optional, read] using member
      subst same
      cases found
      exact gives input outcome read

theorem Gives.many {item : Reader α} (gives : Gives property item) :
    Gives (fun results => ∀ result ∈ results, property result) item.many := by
  suffices within : ∀ bound input, ∀ taken ∈ item.manyWithin bound input,
      ∀ result ∈ taken.1, property result from fun input => within input input
  intro bound
  induction bound with
  | nil => simp [manyWithin]
  | cons _ bound ih =>
      intro input taken member
      cases read : item input with
      | none =>
          have same : ([], input) = taken := by simpa [manyWithin, read] using member
          subst same
          simp
      | some outcome =>
          obtain ⟨first, rest⟩ := outcome
          cases more : item.manyWithin bound rest with
          | none => simp [manyWithin, read, more] at member
          | some results =>
              have same : (first :: results.1, results.2) = taken := by
                simpa [manyWithin, read, more] using member
              subst same
              exact List.forall_mem_cons.mpr ⟨gives input (first, rest) read, ih rest results more⟩

theorem Gives.separated {item : Reader α} {separator : Reader Unit}
    (gives : Gives property item) :
    Gives (fun results => ∀ result ∈ results, property result) (item.separated separator) := by
  refine gives.bind fun first holds => ?_
  refine (Gives.many (.after fun _ => gives)).bind fun rest each => ?_
  exact .pure (List.forall_mem_cons.mpr ⟨holds, each⟩)

theorem Gives.run? {reader : Reader α} (gives : Gives property reader) {text : String}
    {result : α} (found : reader.run? text = some result) : property result := by
  unfold Reader.run? at found
  split at found
  · rename_i taken read
    cases found
    exact gives text.toList (result, []) read
  · cases found

end Reader

namespace Toml

open Reader (Gives)

theorem doubleJson_settled (number : Binary64) : (doubleJson number).Settled := by
  unfold doubleJson
  split <;> trivial

theorem wholeNumber_settled {negative : Bool} {number : Nat} :
    ∀ json ∈ wholeNumber negative number, json.Settled := by
  intro json found
  simp only [wholeNumber, Option.mem_def, Option.ite_none_right_eq_some, Option.some.injEq] at found
  obtain ⟨_, rfl⟩ := found
  trivial

theorem decimalInteger_settled : Gives Json.Settled decimalInteger :=
  .after fun _ => .after fun _ => .lift wholeNumber_settled

theorem prefixedInteger_settled (letter : Char) (base : Nat) (accepts : Char → Bool) :
    Gives Json.Settled (prefixedInteger letter base accepts) :=
  .after fun _ => .after fun _ => .lift wholeNumber_settled

theorem integer_settled : Gives Json.Settled integer :=
  .orElse (prefixedInteger_settled 'x' 16 _) <| .orElse (prefixedInteger_settled 'o' 8 _) <|
    .orElse (prefixedInteger_settled 'b' 2 _) decimalInteger_settled

theorem decimalFloat_settled : Gives Json.Settled decimalFloat := by
  refine .after fun negative => .after fun whole => .after fun fraction => .after fun exponent => ?_
  have finite (number : Binary64) : Gives Json.Settled (do
      if number = Binary64.infinity false then failure
      return doubleJson number) := by
    split
    · exact .after fun _ => .pure (doubleJson_settled number)
    · exact .pure (doubleJson_settled number)
  dsimp only
  split
  · exact .after fun _ => finite _
  · exact finite _

theorem date_settled : Gives Json.Settled date :=
  .after fun text => .pure ⟨by simp [Keyed.keys], trivial, trivial⟩

theorem scalar_settled : Gives Json.Settled scalar := by
  have text : Gives Json.Settled (Json.text <$> string) := .map fun _ _ _ => trivial
  refine .after fun next => ?_
  split
  · exact text
  · exact text
  · exact .after fun _ => .pure trivial
  · exact .after fun _ => .pure trivial
  · split
    · exact .orElse date_settled (.orElse (.orElse decimalFloat_settled
        (.after fun _ => .after fun _ => .pure trivial)) integer_settled)
    · exact .failure
  · exact .failure

namespace Node

theorem entriesJson_eq (entries : List (String × Node)) :
    entriesJson entries = entries.map fun entry => (entry.1, entry.2.toJson) := by
  induction entries with
  | nil => rfl
  | cons entry rest ih => rw [entriesJson, ih, List.map_cons]

theorem elementsJson_eq (elements : List (List (String × Node))) :
    elementsJson elements = elements.map fun entries => .object (entriesJson entries) := by
  induction elements with
  | nil => rfl
  | cons entries rest ih => rw [elementsJson, ih, List.map_cons]

end Node

namespace Table

structure Settled (table : Table) : Prop where
  unique : (Keyed.keys table.entries).Nodup
  nodes : ∀ entry ∈ table.entries, entry.2.toJson.Settled

theorem settled_entriesJson_iff {origin : Origin} {entries : List (String × Node)} :
    (Json.object (Node.entriesJson entries)).Settled ↔ Settled ⟨origin, entries⟩ := by
  have names : Keyed.keys (Node.entriesJson entries) = Keyed.keys entries := by
    simp [Node.entriesJson_eq, Keyed.keys, Function.comp_def]
  rw [Json.settled_object_iff, names, Node.entriesJson_eq, List.forall_mem_map]
  exact ⟨fun both => ⟨both.1, both.2⟩, fun settled => ⟨settled.unique, settled.nodes⟩⟩

theorem settled_ofTable_iff {table : Table} :
    (Node.ofTable table).toJson.Settled ↔ table.Settled :=
  settled_entriesJson_iff

theorem settled_tables_iff {elements : List (List (String × Node))} :
    (Node.tables elements).toJson.Settled ↔ ∀ entries ∈ elements, Settled ⟨.own, entries⟩ := by
  rw [Node.toJson, Node.elementsJson_eq, Json.settled_array_iff, List.forall_mem_map]
  exact forall₂_congr fun _ _ => settled_entriesJson_iff

variable {table : Table} {name : String} {node : Node}

theorem Settled.empty (origin : Origin) : (empty origin).Settled :=
  ⟨List.nodup_nil, fun _ member => absurd member List.not_mem_nil⟩

theorem Settled.put (settled : table.Settled) (fits : node.toJson.Settled) :
    (table.put name node).Settled := by
  refine ⟨Keyed.keys_put_nodup name node table.entries settled.unique, fun entry member => ?_⟩
  rcases Keyed.mem_of_mem_put member with rfl | old
  · exact fits
  · exact settled.nodes entry old

theorem Settled.erase (settled : table.Settled) : (table.erase name).Settled :=
  ⟨((Keyed.erase_sublist name table.entries).map Prod.fst).nodup settled.unique,
    fun entry member => settled.nodes entry ((Keyed.erase_sublist name table.entries).mem member)⟩

theorem Settled.found (settled : table.Settled) (found : table.find? name = some node) :
    node.toJson.Settled :=
  settled.nodes (name, node) (Keyed.mem_of_find? found)

def Keeps (update : Table → Option Table) : Prop :=
  ∀ table, table.Settled → ∀ changed ∈ update table, changed.Settled

theorem Keeps.change (made : Origin) {update : Table → Option Table} (keeps : Keeps update)
    (way : List String) : Keeps (change made update way) := by
  induction way with
  | nil => exact keeps
  | cons name way ih =>
      intro table settled changed member
      unfold Table.change at member
      -- The name is new, a value, a table or an array of tables; what is inside is settled.
      split at member
      · obtain ⟨child, below, same⟩ := Option.bind_eq_some_iff.mp member
        cases same
        exact settled.put (settled_ofTable_iff.mpr (ih _ (.empty made) child below))
      · cases member
      · rename_i origin entries found
        split at member
        · cases member
        · obtain ⟨child, below, same⟩ := Option.bind_eq_some_iff.mp member
          cases same
          have inside : Settled ⟨origin, entries⟩ := settled_ofTable_iff.mp (settled.found found)
          exact settled.put (settled_ofTable_iff.mpr (ih _ inside child below))
      · rename_i elements found
        have inside := settled_tables_iff.mp (settled.found found)
        split at member
        · cases member
        · rename_i entries last
          obtain ⟨child, below, same⟩ := Option.bind_eq_some_iff.mp member
          cases same
          have before := inside entries (List.mem_of_getLast? last)
          have grown : child.Settled := ih _ before child below
          refine settled.put (settled_tables_iff.mpr fun element member => ?_)
          rcases List.mem_append.mp member with earlier | final
          · exact inside element (List.dropLast_subset elements earlier)
          · rw [List.mem_singleton.mp final]
            exact ⟨grown.unique, grown.nodes⟩

theorem addHere_keeps (isPlain : Bool) (name : String) {content : Json} (fits : content.Settled) :
    Keeps (addHere isPlain name content) := by
  intro table settled changed member
  unfold addHere at member
  split at member
  · cases member
  · split at member
    · cases member
    · cases member
      exact settled.put fits

theorem addPairs_keeps {pairs : List (Path × Json)} (fit : ∀ pair ∈ pairs, pair.2.Settled) :
    Keeps (addPairs · pairs) := by
  induction pairs with
  | nil =>
      intro table settled changed member
      cases member
      exact settled
  | cons pair rest ih =>
      rw [List.forall_mem_cons] at fit
      intro table settled changed member
      obtain ⟨longer, first, later⟩ := Option.bind_eq_some_iff.mp member
      have added := (addHere_keeps pair.1.way.isEmpty pair.1.name fit.1).change .dotted pair.1.way
      exact ih fit.2 longer (added table settled longer first) changed later

theorem openTable_keeps (name : String) {pairs : List (Path × Json)}
    (fit : ∀ pair ∈ pairs, pair.2.Settled) : Keeps (openTable name pairs) := by
  intro table settled changed member
  have opened (start : List (String × Node)) (fresh : Settled ⟨.own, start⟩)
      (taken : changed ∈ (do
        let filled ← addPairs ⟨.own, start⟩ pairs
        return (table.erase name).put name (.ofTable filled))) : changed.Settled := by
    obtain ⟨filled, added, same⟩ := Option.bind_eq_some_iff.mp taken
    cases same
    exact settled.erase.put (settled_ofTable_iff.mpr (addPairs_keeps fit _ fresh filled added))
  unfold openTable at member
  dsimp only at member
  split at member
  · exact opened [] (.empty .own) member
  · rename_i entries found
    exact opened entries (settled_entriesJson_iff.mp (settled.found found)) member
  · cases member

theorem openElement_keeps (name : String) {pairs : List (Path × Json)}
    (fit : ∀ pair ∈ pairs, pair.2.Settled) : Keeps (openElement name pairs) := by
  intro table settled changed member
  have opened (earlier : List (List (String × Node)))
      (before : ∀ entries ∈ earlier, Settled ⟨.own, entries⟩)
      (taken : changed ∈ (do
        let filled ← addPairs (Table.empty .own) pairs
        return table.put name (.tables (earlier ++ [filled.entries])))) : changed.Settled := by
    obtain ⟨filled, added, same⟩ := Option.bind_eq_some_iff.mp taken
    cases same
    have last : filled.Settled := addPairs_keeps fit _ (.empty .own) filled added
    refine settled.put (settled_tables_iff.mpr fun entries member => ?_)
    rcases List.mem_append.mp member with old | new
    · exact before entries old
    · rw [List.mem_singleton.mp new]
      exact ⟨last.unique, last.nodes⟩
  unfold openElement at member
  dsimp only at member
  split at member
  · exact opened [] (fun _ member => absurd member List.not_mem_nil) member
  · rename_i elements found
    exact opened elements (settled_tables_iff.mp (settled.found found)) member
  · cases member

theorem addSections_keeps {parts : List Section}
    (fit : ∀ part ∈ parts, ∀ pair ∈ part.pairs, pair.2.Settled) :
    Keeps (addSections · parts) := by
  induction parts with
  | nil =>
      intro table settled changed member
      cases member
      exact settled
  | cons part rest ih =>
      rw [List.forall_mem_cons] at fit
      intro table settled changed member
      obtain ⟨larger, first, later⟩ := Option.bind_eq_some_iff.mp member
      have opened : Keeps ((if part.isElement then openElement else openTable)
          part.path.name part.pairs) := by
        split
        · exact openElement_keeps _ fit.1
        · exact openTable_keeps _ fit.1
      exact ih fit.2 larger (opened.change .parent part.path.way table settled larger first)
        changed later

end Table

theorem pair_settled {value : Reader Json} (gives : Gives Json.Settled value) :
    Gives (fun pair => pair.2.Settled) (pair value) :=
  .after fun _ => .after fun _ => .after fun _ => gives.bind fun _ settled => .pure settled

theorem array_settled {value : Reader Json} (gives : Gives Json.Settled value) :
    Gives (fun items => ∀ item ∈ items, item.Settled) (array value) := by
  have item : Gives Json.Settled (do
      gap
      let content ← value
      gap
      return content) :=
    .after fun _ => gives.bind fun _ settled => .after fun _ => .pure settled
  refine .after fun _ => item.separated.optional.bind fun items settled => ?_
  have closed : Gives (fun items => ∀ item ∈ items, item.Settled) (do
      gap
      Reader.char ']'
      return items.getD []) := by
    refine .after fun _ => .after fun _ => .pure ?_
    cases items with
    | none => simp
    | some items => exact settled items rfl
  dsimp only
  split
  · exact .after fun _ => closed
  · exact closed

theorem inlineTable_settled {value : Reader Json} (gives : Gives Json.Settled value) :
    Gives Json.Settled (inlineTable value) := by
  have member : Gives (fun pair => pair.2.Settled) (do
      let content ← pair value
      spaces
      return content) :=
    (pair_settled gives).bind fun _ settled => .after fun _ => .pure settled
  refine .after fun _ => member.separated.optional.bind fun pairs settled => ?_
  refine .after fun _ => .after fun _ => ?_
  have fit : ∀ pair ∈ pairs.getD [], pair.2.Settled := by
    cases pairs with
    | none => simp
    | some pairs => exact settled pairs rfl
  refine (Gives.lift (Table.addPairs_keeps fit _ (.empty .own))).bind fun table settled => ?_
  exact .pure (Table.settled_ofTable_iff.mpr settled)

theorem nested_settled (depth : Nat) : Gives Json.Settled (nested depth) := by
  induction depth with
  | zero => exact scalar_settled
  | succ depth ih =>
      refine .after fun next => ?_
      split
      · refine .map ?_
        intro input taken member
        exact Json.settled_array_iff.mpr (array_settled ih input taken member)
      · exact inlineTable_settled ih
      · exact scalar_settled

theorem pairLine_settled : Gives (fun pair => pair.2.Settled) pairLine :=
  (pair_settled (nested_settled _)).bind fun _ settled =>
    .after fun _ => .after fun _ => .pure settled

theorem tableSection_settled :
    Gives (fun part => ∀ pair ∈ part.pairs, pair.2.Settled) tableSection := by
  refine .after fun element => ?_
  have below (key : Path) : Gives (fun part => ∀ pair ∈ part.pairs, pair.2.Settled) (do
      restOfLine
      emptyLines
      let pairs ← Reader.many pairLine
      return Section.mk element.isSome key pairs) :=
    .after fun _ => .after fun _ => pairLine_settled.many.bind fun _ settled => .pure settled
  dsimp only
  split <;> exact .after below

theorem document_settled : Gives Json.Settled document := by
  refine .after fun _ => .after fun _ => pairLine_settled.many.bind fun pairs fit => ?_
  refine tableSection_settled.many.bind fun sections fitting => .after fun _ => ?_
  refine (Gives.lift (Table.addPairs_keeps fit _ (.empty .own))).bind fun root settled => ?_
  refine (Gives.lift (Table.addSections_keeps fitting _ settled)).bind fun whole grown => ?_
  exact .pure (Table.settled_ofTable_iff.mpr grown)

theorem settled_of_read? {text : String} {json : Json} (found : read? text = some json) :
    json.Settled :=
  document_settled.run? found

end Toml

/-- Whatever is read from a document names each member of each object once. -/
theorem Settings.settled_of_readDocument? {format : Format} {document : String} {overlay : Json}
    (found : readDocument? format document = some overlay) : overlay.Settled := by
  cases format with
  | toml => exact Toml.settled_of_read? found
  | json => exact Json.settled_of_read? found

end BoundSql
