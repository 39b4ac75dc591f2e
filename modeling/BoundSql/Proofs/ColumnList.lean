import BoundSql.Proofs.ReferenceCycle
import BoundSql.Proofs.Statements
import BoundSql.Proofs.Token

/-! Column lists of created tables as SQL reads them: a list in parentheses, whose entries stand
apart by the commas that are neither in further parentheses nor in a quoted literal. A default
value is one literal, whatever its text holds. -/

namespace BoundSql

theorem Text.trimStart_space (chars : List Char) : trimStart (' ' :: chars) = trimStart chars := by
  have blank : isBlank ' ' = true := rfl
  simp [trimStart, blank]

namespace ColumnList

/-- After a quote inside a literal the literal has ended, unless another quote follows. -/
inductive Quoting
  | outside
  | inside
  | ended
  deriving DecidableEq

/-- A scanner behind the opening parenthesis of a list: the parentheses that are open inside the
list, the entry being read and those before it. -/
structure Scanner where
  depth : Nat
  quoting : Quoting
  entry : List Char
  entries : List (List Char)
  closed : Bool

namespace Scanner

def keep (scanner : Scanner) (char : Char) : Scanner :=
  { scanner with entry := scanner.entry ++ [char] }

def endEntry (scanner : Scanner) : Scanner :=
  { scanner with entry := [], entries := scanner.entries ++ [scanner.entry] }

def stepOutside (scanner : Scanner) (char : Char) : Scanner :=
  if char = '\'' then { scanner.keep char with quoting := .inside }
  else if char = '(' then { scanner.keep char with depth := scanner.depth + 1 }
  else if char = ')' then
    if scanner.depth = 0 then { scanner.endEntry with closed := true }
    else { scanner.keep char with depth := scanner.depth - 1 }
  else if char = ',' ∧ scanner.depth = 0 then scanner.endEntry
  else scanner.keep char

def step (scanner : Scanner) (char : Char) : Option Scanner :=
  if scanner.closed then none
  else
    match scanner.quoting with
    | .outside => some (scanner.stepOutside char)
    | .inside =>
        some { scanner.keep char with quoting := if char = '\'' then .ended else .inside }
    | .ended =>
        if char = '\'' then some { scanner.keep char with quoting := .inside }
        else some (stepOutside { scanner with quoting := .outside } char)

end Scanner

def read (text : List Char) : Option (List String) :=
  match Text.trimStart text with
  | '(' :: rest => do
      let scanner ← rest.foldlM Scanner.step ⟨0, .outside, [], [], false⟩
      if scanner.closed then
        some (scanner.entries.map fun entry => String.ofList (Text.trimStart entry))
      else none
  | _ => none

example : read " (a TEXT DEFAULT 'x'', (', b VARCHAR(120))".toList =
    some ["a TEXT DEFAULT 'x'', ('", "b VARCHAR(120)"] := by
  decide

def decodeBody : List Char → Option (List Char)
  | [] => none
  | ['\''] => some []
  | '\'' :: '\'' :: rest => (decodeBody rest).map ('\'' :: ·)
  | char :: rest => if char = '\'' then none else (decodeBody rest).map (char :: ·)

def decode (literal : String) : Option String :=
  match literal.toList with
  | '\'' :: body => (decodeBody body).map String.ofList
  | _ => none

def doubled (char : Char) : List Char := if char = '\'' then ['\'', '\''] else [char]

theorem toList_literal (text : String) :
    (Dialect.literal text).toList = '\'' :: (text.toList.flatMap doubled ++ ['\'']) := by
  simp only [Dialect.literal, String.toList_ofList]
  rfl

theorem decodeBody_doubled (chars : List Char) :
    decodeBody (chars.flatMap doubled ++ ['\'']) = some chars := by
  induction chars with
  | nil => rfl
  | cons char rest ih =>
      by_cases quote : char = '\''
      · simp [doubled, quote, decodeBody, ih]
      · have step (tail : List Char) :
            decodeBody (char :: tail) = (decodeBody tail).map (char :: ·) := by
          rw [decodeBody.eq_def]
          split <;> simp_all
        simp [doubled, quote, step, ih]

theorem decode_literal (text : String) : decode (Dialect.literal text) = some text := by
  rw [decode, toList_literal]
  simp only [decodeBody_doubled, Option.map_some, String.ofList_toList]

namespace Scanner

def isOrdinary (char : Char) : Bool :=
  char != '\'' && char != '(' && char != ')' && char != ','

variable (depth : Nat) (entry : List Char) (entries : List (List Char))

theorem scan_ordinary (chars : List Char) (ordinary : chars.all isOrdinary = true) :
    chars.foldlM step ⟨depth, .outside, entry, entries, false⟩ =
      some ⟨depth, .outside, entry ++ chars, entries, false⟩ := by
  induction chars generalizing entry with
  | nil => simp
  | cons char rest ih =>
      simp only [List.all_cons, Bool.and_eq_true] at ordinary
      have kept : step ⟨depth, .outside, entry, entries, false⟩ char =
          some ⟨depth, .outside, entry ++ [char], entries, false⟩ := by
        simp_all [isOrdinary, step, stepOutside, keep]
      rw [List.foldlM_cons, kept, Option.bind_eq_bind, Option.bind_some, ih _ ordinary.2]
      simp

theorem scan_literal_body (chars : List Char) :
    (chars.flatMap doubled).foldlM step ⟨depth, .inside, entry, entries, false⟩ =
      some ⟨depth, .inside, entry ++ chars.flatMap doubled, entries, false⟩ := by
  induction chars generalizing entry with
  | nil => simp
  | cons char rest ih =>
      have kept : (doubled char).foldlM step ⟨depth, .inside, entry, entries, false⟩ =
          some ⟨depth, .inside, entry ++ doubled char, entries, false⟩ := by
        by_cases quote : char = '\'' <;> simp [doubled, quote, step, keep]
      rw [List.flatMap_cons, List.foldlM_append, kept, Option.bind_eq_bind, Option.bind_some, ih]
      simp

theorem scan_literal (text : String) :
    (Dialect.literal text).toList.foldlM step ⟨depth, .outside, entry, entries, false⟩ =
      some ⟨depth, .ended, entry ++ (Dialect.literal text).toList, entries, false⟩ := by
  have opened : step ⟨depth, .outside, entry, entries, false⟩ '\'' =
      some ⟨depth, .inside, entry ++ ['\''], entries, false⟩ := by simp [step, stepOutside, keep]
  rw [toList_literal, List.foldlM_cons, opened, Option.bind_eq_bind, Option.bind_some,
    List.foldlM_append, scan_literal_body, Option.bind_eq_bind, Option.bind_some]
  simp [step, keep]

theorem scan_sized (name size : List Char) (ordinary : name.all isOrdinary = true)
    (sizeOrdinary : size.all isOrdinary = true) :
    (name ++ '(' :: (size ++ [')'])).foldlM step ⟨depth, .outside, entry, entries, false⟩ =
      some ⟨depth, .outside, entry ++ (name ++ '(' :: (size ++ [')'])), entries, false⟩ := by
  have opened : step ⟨depth, .outside, entry ++ name, entries, false⟩ '(' =
      some ⟨depth + 1, .outside, entry ++ name ++ ['('], entries, false⟩ := by
    simp [step, stepOutside, keep]
  rw [List.foldlM_append, scan_ordinary depth entry entries _ ordinary, Option.bind_eq_bind,
    Option.bind_some, List.foldlM_cons, opened, Option.bind_eq_bind, Option.bind_some,
    List.foldlM_append, scan_ordinary _ _ entries _ sizeOrdinary, Option.bind_eq_bind,
    Option.bind_some]
  simp [step, stepOutside, keep]

theorem scan_sqliteType (columnType : ColumnType) :
    (Dialect.sqliteType columnType).toList.foldlM step ⟨depth, .outside, entry, entries, false⟩ =
      some ⟨depth, .outside, entry ++ (Dialect.sqliteType columnType).toList, entries, false⟩ := by
  cases columnType with
  | int => exact scan_ordinary depth entry entries "INTEGER".toList rfl
  | string => exact scan_sized depth entry entries "VARCHAR".toList "120".toList rfl rfl
  | text => exact scan_ordinary depth entry entries "TEXT".toList rfl
  | list => exact scan_sized depth entry entries "VARCHAR".toList "255".toList rfl rfl
  | bool => exact scan_sized depth entry entries "TINYINT".toList "1".toList rfl rfl

structure Steady (chars : List Char) : Prop where
  quote_not_mem : '\'' ∉ chars
  scanned : ∀ entry entries, chars.foldlM step ⟨0, .outside, entry, entries, false⟩ =
    some ⟨0, .outside, entry ++ chars, entries, false⟩

theorem Steady.ofOrdinary {chars : List Char} (ordinary : chars.all isOrdinary = true) :
    Steady chars where
  quote_not_mem := by
    intro member
    have plain := List.all_eq_true.mp ordinary '\'' member
    simp [isOrdinary] at plain
  scanned := fun entry entries => scan_ordinary 0 entry entries _ ordinary

theorem Steady.ofType (columnType : ColumnType) :
    Steady (Dialect.sqliteType columnType).toList where
  quote_not_mem := by cases columnType <;> decide
  scanned := fun entry entries => scan_sqliteType 0 entry entries columnType

theorem Steady.append {first second : List Char} (steady : Steady first)
    (following : Steady second) : Steady (first ++ second) where
  quote_not_mem := by simp [steady.quote_not_mem, following.quote_not_mem]
  scanned := by
    intro entry entries
    rw [List.foldlM_append, steady.scanned, Option.bind_eq_bind, Option.bind_some,
      following.scanned, List.append_assoc]

def Fits (text : String) : Prop :=
  ∀ entry entries, ∃ quoting, quoting ≠ Quoting.inside ∧
    text.toList.foldlM step ⟨0, .outside, entry, entries, false⟩ =
      some ⟨0, quoting, entry ++ text.toList, entries, false⟩

theorem step_comma {quoting : Quoting} (outside : quoting ≠ .inside) :
    step ⟨0, quoting, entry, entries, false⟩ ',' =
      some ⟨0, .outside, [], entries ++ [entry], false⟩ := by
  cases quoting with
  | outside => simp [step, stepOutside, endEntry]
  | inside => exact absurd rfl outside
  | ended => simp [step, stepOutside, endEntry]

theorem step_closing {quoting : Quoting} (outside : quoting ≠ .inside) :
    ∃ last, step ⟨0, quoting, entry, entries, false⟩ ')' = some last ∧
      last.entries = entries ++ [entry] ∧ last.closed = true := by
  cases quoting with
  | outside => exact ⟨_, rfl, by simp [stepOutside, endEntry]⟩
  | inside => exact absurd rfl outside
  | ended => exact ⟨_, rfl, by simp [stepOutside, endEntry]⟩

theorem scan_entries (first : String) (rest : List String)
    (fits : ∀ text ∈ first :: rest, Fits text) (lead : List Char)
    (entries : List (List Char)) :
    ∃ last, ((", ".intercalate (first :: rest)).toList ++ [')']).foldlM step
        ⟨0, .outside, lead, entries, false⟩ = some last ∧ last.closed = true ∧
      last.entries =
        entries ++ (lead ++ first.toList) :: rest.map fun text => ' ' :: text.toList := by
  induction rest generalizing first lead entries with
  | nil =>
      obtain ⟨quoting, outside, scanned⟩ := fits first (by simp) lead entries
      obtain ⟨last, stepped, complete, closed⟩ :=
        step_closing (lead ++ first.toList) entries outside
      refine ⟨last, ?_, closed, complete⟩
      rw [String.intercalate_singleton, List.foldlM_append, scanned, Option.bind_eq_bind,
        Option.bind_some, List.foldlM_cons, stepped]
      rfl
  | cons second others ih =>
      obtain ⟨quoting, outside, scanned⟩ := fits first (by simp) lead entries
      have blank : step ⟨0, .outside, [], entries ++ [lead ++ first.toList], false⟩ ' ' =
          some ⟨0, .outside, [' '], entries ++ [lead ++ first.toList], false⟩ := by
        simp [step, stepOutside, keep]
      obtain ⟨last, onward, closed, complete⟩ :=
        ih second (fun text member => fits text (List.mem_cons_of_mem first member)) [' ']
          (entries ++ [lead ++ first.toList])
      refine ⟨last, ?_, closed, by simp [complete]⟩
      have text : (", ".intercalate (first :: second :: others)).toList ++ [')'] =
          first.toList ++ ',' :: ' ' ::
            ((", ".intercalate (second :: others)).toList ++ [')']) := by
        simp [String.intercalate_cons_cons]
      rw [text, List.foldlM_append, scanned, Option.bind_eq_bind, Option.bind_some,
        List.foldlM_cons, step_comma _ _ outside, Option.bind_eq_bind, Option.bind_some,
        List.foldlM_cons, blank, Option.bind_eq_bind, Option.bind_some, onward]

end Scanner

theorem read_list (first : String) (rest : List String)
    (fits : ∀ text ∈ first :: rest, Scanner.Fits text)
    (filled : ∀ text ∈ first :: rest, Text.trimStart text.toList = text.toList) :
    read (" (" ++ ", ".intercalate (first :: rest) ++ ")").toList = some (first :: rest) := by
  obtain ⟨last, scanned, closed, complete⟩ := Scanner.scan_entries first rest fits [] []
  have opened : Text.trimStart (" (" ++ ", ".intercalate (first :: rest) ++ ")").toList =
      '(' :: ((", ".intercalate (first :: rest)).toList ++ [')']) := by
    have blank : Text.isBlank ' ' = true := rfl
    have parenthesis : Text.isBlank '(' = false := rfl
    simp [Text.trimStart, blank, parenthesis]
  have entry (text : String) (member : text ∈ first :: rest) :
      String.ofList (Text.trimStart text.toList) = text := by
    rw [filled text member, String.ofList_toList]
  have others : rest.map (fun text => String.ofList (Text.trimStart (' ' :: text.toList))) =
      rest := by
    rw [List.map_congr_left (g := id), List.map_id]
    intro text member
    exact (congrArg String.ofList (Text.trimStart_space text.toList)).trans
      (entry text (List.mem_cons_of_mem first member))
  simp only [read, opened, scanned, Option.bind_eq_bind, Option.bind_some, closed, if_true,
    complete, List.nil_append, List.map_cons, List.map_map, Function.comp_def, others,
    entry first List.mem_cons_self]

end ColumnList

def EndsInDefault (entry : String) : Option String → Prop
  | some text => ∃ front literal, entry = front ++ " DEFAULT " ++ literal ∧
      '\'' ∉ front.toList ∧ ColumnList.decode literal = some text
  | none => '\'' ∉ entry.toList

namespace Registry

/-- The references of `start` lead to this descriptor, which has a type of its own. -/
def Supplies (registry : Registry) (start last : Descriptor) : Prop :=
  ∃ hops columnType, registry.Chain start hops last ∧ last.base = .atomic columnType

theorem Supplies.unique {registry : Registry} {start last other : Descriptor}
    (supplies : registry.Supplies start last) (again : registry.Supplies start other) :
    last = other := by
  obtain ⟨hops, columnType, chain, typed⟩ := supplies
  obtain ⟨more, otherType, second, otherTyped⟩ := again
  induction chain generalizing more with
  | ended descriptor =>
      cases second with
      | ended => rfl
      | hop reference _ _ _ _ => simp [typed] at reference
  | hop reference known identifies declares _ ih =>
      cases more with
      | nil =>
          cases second
          simp [otherTyped] at reference
      | cons first rest =>
          obtain ⟨_, onward⟩ := second.tail reference known identifies declares
          exact ih typed rest onward

end Registry

namespace Dialect

theorem chain_of_resolve {dialect : Dialect} {registry : Registry} {start : Descriptor}
    {text : String} (resolved : (dialect.resolve registry start).outcome = .ok text) :
    ∃ hops last columnType token, registry.Chain start hops last ∧
      last.base = .atomic columnType ∧ dialect.typeSql columnType = some token ∧
      text = " ".intercalate (token :: dialect.columnTokens hops last) := by
  obtain ⟨hops, last, chain, distinct, stops⟩ :=
    registry.exists_chain_to_stop start [] List.nodup_nil
  rw [List.nil_append] at distinct stops
  have base := Registry.base_reached hops last
  rw [outcome_resolve dialect chain distinct] at resolved
  cases stops with
  | @typed columnType typed =>
      rw [Registry.follow_atomic (base.trans typed), Logged.outcome_pure] at resolved
      cases written : dialect.typeSql columnType with
      | none => simp [bind, Except.bind, definition, written] at resolved
      | some token =>
          refine ⟨hops, last, columnType, token, chain, typed, written, ?_⟩
          exact (Except.ok.inj ((definition_reached written hops last).symm.trans resolved)).symm
  | repeated reference seen =>
      rw [Registry.follow_again (base.trans reference) seen] at resolved
      simp [bind, Except.bind] at resolved
  | unidentified reference fresh stuck =>
      obtain ⟨error, failed, _⟩ := Registry.follow_unidentified (base.trans reference) fresh stuck
      rw [failed] at resolved
      simp [bind, Except.bind] at resolved

theorem columnDefinitions_ok {dialect : Dialect} {registry : Registry}
    {columns : List (String × Descriptor)} {definitions : List (String × String)}
    (defined : (dialect.columnDefinitions registry columns).outcome = .ok definitions) :
    List.Forall₂ (fun column entry => entry.1 = column.1 ∧
      (dialect.resolve registry column.2).outcome = .ok entry.2) columns definitions := by
  induction columns generalizing definitions with
  | nil =>
      simp only [columnDefinitions, Logged.outcome_pure, Except.ok.injEq] at defined
      exact defined ▸ .nil
  | cons first rest ih =>
      simp only [columnDefinitions, Logged.outcome_bind, Logged.outcome_pure] at defined
      obtain ⟨sql, resolved, remaining⟩ := bind_eq_ok_iff.mp defined
      obtain ⟨others, following, whole⟩ := bind_eq_ok_iff.mp remaining
      rw [← Except.ok.inj whole]
      exact .cons ⟨rfl, resolved⟩ (ih following)

def plainTokens (dialect : Dialect) (hops : List (String × String)) (descriptor : Descriptor) :
    List String :=
  dialect.keyTokens hops descriptor ++ (descriptor.nullable.map dialect.nullability).toList

theorem sqlite_plainTokens (hops : List (String × String)) (descriptor : Descriptor) :
    ∀ token ∈ sqlite.plainTokens hops descriptor,
      token.toList.all ColumnList.Scanner.isOrdinary = true := by
  have key : ∀ token ∈ sqlite.keyTokens hops descriptor,
      token.toList.all ColumnList.Scanner.isOrdinary = true := by
    cases hops with
    | nil =>
        intro token member
        cases primary : descriptor.primary <;> cases auto : descriptor.auto <;>
          simp [keyTokens, primary, auto, sqlite] at member
        · exact member ▸ rfl
        · exact member ▸ rfl
        · rcases member with rfl | rfl <;> rfl
    | cons hop rest => simp [keyTokens]
  intro token member
  rcases List.mem_append.mp member with inKey | inRest
  · exact key token inKey
  · cases nullable : descriptor.nullable with
    | none => simp [nullable] at inRest
    | some may =>
        simp only [nullable, Option.map_some, Option.toList_some, List.mem_singleton] at inRest
        cases may <;> exact inRest ▸ rfl

open ColumnList.Scanner in
theorem steady_front {name : String} (identifier : Token.isIdentifier name = true)
    (hops : List (String × String)) (columnType : ColumnType) (descriptor : Descriptor) :
    Steady (name ++ " " ++ sqliteType columnType ++
      String.join ((sqlite.plainTokens hops descriptor).map (" " ++ ·))).toList := by
  have nameSteady : Steady name.toList := by
    apply Steady.ofOrdinary
    simp only [Token.isIdentifier, Bool.and_eq_true, List.all_eq_true] at identifier ⊢
    intro char member
    have word := identifier.2 char member
    simp only [isOrdinary, Bool.and_eq_true, bne_iff_ne]
    refine ⟨⟨⟨?_, ?_⟩, ?_⟩, ?_⟩ <;> (rintro rfl; exact absurd word (by decide))
  have tokensSteady : Steady
      (String.join ((sqlite.plainTokens hops descriptor).map (" " ++ ·))).toList := by
    apply Steady.ofOrdinary
    have ordinary := sqlite_plainTokens hops descriptor
    generalize sqlite.plainTokens hops descriptor = tokens at ordinary
    induction tokens with
    | nil => rfl
    | cons token rest ih =>
        simp only [List.forall_mem_cons] at ordinary
        have later := ih ordinary.2
        have blank : isOrdinary ' ' = true := rfl
        simp only [List.map_cons, String.join_cons, String.toList_append, List.all_append,
          ordinary.1, later]
        rfl
  simp only [String.toList_append]
  exact ((nameSteady.append (.ofOrdinary rfl)).append (.ofType columnType)).append tokensSteady

theorem intercalate_columnTokens (token : String) (hops : List (String × String))
    (descriptor : Descriptor) :
    " ".intercalate (token :: sqlite.columnTokens hops descriptor) =
      token ++ String.join ((sqlite.plainTokens hops descriptor).map (" " ++ ·)) ++
        match descriptor.defaultText with
        | some text => " DEFAULT " ++ literal text
        | none => "" := by
  have keyword : sqlite.defaultKeyword = "DEFAULT" := rfl
  rw [intercalate_space, columnTokens, plainTokens]
  cases descriptor.defaultText with
  | none => simp [String.join_append, String.append_assoc]
  | some text =>
      have lead : " " ++ ("DEFAULT " ++ literal text) = " DEFAULT " ++ literal text :=
        (String.append_assoc ..).symm
      simp [String.join_append, String.append_assoc, keyword, lead]

theorem entry_fits {name : String} (identifier : Token.isIdentifier name = true)
    (hops : List (String × String)) (columnType : ColumnType) (descriptor : Descriptor) :
    ColumnList.Scanner.Fits (name ++ " " ++ " ".intercalate
        (sqliteType columnType :: sqlite.columnTokens hops descriptor)) ∧
      EndsInDefault (name ++ " " ++ " ".intercalate
        (sqliteType columnType :: sqlite.columnTokens hops descriptor)) descriptor.defaultText := by
  have steady := steady_front identifier hops columnType descriptor
  simp only [intercalate_columnTokens, ← String.append_assoc]
  generalize name ++ " " ++ sqliteType columnType ++
    String.join ((sqlite.plainTokens hops descriptor).map (" " ++ ·)) = front at steady
  cases descriptor.defaultText with
  | none =>
      simp only [String.append_empty]
      exact ⟨fun entry entries => ⟨.outside, by simp, steady.scanned entry entries⟩,
        steady.quote_not_mem⟩
  | some text =>
      refine ⟨?_, front, literal text, (String.append_assoc ..).symm, steady.quote_not_mem, ?_⟩
      · intro entry entries
        refine ⟨.ended, by simp, ?_⟩
        have keyword : ColumnList.Scanner.Steady " DEFAULT ".toList := .ofOrdinary rfl
        have lead := (steady.append keyword).scanned entry entries
        simp only [← String.append_assoc, String.toList_append] at lead ⊢
        rw [List.foldlM_append, lead, Option.bind_eq_bind, Option.bind_some,
          ColumnList.Scanner.scan_literal, List.append_assoc]
      · exact ColumnList.decode_literal text

end Dialect

namespace Query

def entryText (definition : String × String) : String := definition.1 ++ " " ++ definition.2

def creation (tablePrefix table : String) (definitions : List (String × String)) : Query where
  operation := .createTable
  table := table
  tablePrefix := tablePrefix
  columns := .definitions (definitions.map fun definition => ⟨some definition.1, definition.2⟩)

theorem compile_creation (tablePrefix table : String) {definitions : List (String × String)}
    (filled : definitions ≠ []) :
    (creation tablePrefix table definitions).compile = .ok (.ofText
      ("CREATE TABLE " ++ (tablePrefix ++ table) ++
        (" (" ++ ", ".intercalate (definitions.map entryText) ++ ")"))) := by
  cases definitions with
  | nil => exact absurd rfl filled
  | cons first rest =>
      have noOptions : (creation tablePrefix table (first :: rest)).optionsSql = "" := by
        simp [creation, optionsSql, Text.trim, Text.trimStart, Text.trimEnd]
      have statement : (creation tablePrefix table (first :: rest)).statement =
          .ok (.ofText (creation tablePrefix table (first :: rest)).createText) := rfl
      have text : (creation tablePrefix table (first :: rest)).createText =
          "CREATE TABLE " ++ (tablePrefix ++ table) ++
            (" (" ++ ", ".intercalate ((first :: rest).map entryText) ++ ")") := by
        have entries : (first :: rest).map (fun definition =>
            ColumnEntry.sql ⟨some definition.1, definition.2⟩) =
              (first :: rest).map entryText := rfl
        rw [createText, noOptions]
        simp only [creation, tableName, List.map_map, Function.comp_def, entries,
          String.append_assoc, String.append_empty]
      rw [text] at statement
      rw [compile, statement]
      rfl

end Query

namespace Dialect

open Query (entryText)

theorem trimStart_entry {name : String} (identifier : Token.isIdentifier name = true)
    (rest : String) :
    Text.trimStart (name ++ rest).toList = (name ++ rest).toList := by
  simp only [Token.isIdentifier, Bool.and_eq_true, bne_iff_ne, List.all_eq_true] at identifier
  cases chars : name.toList with
  | nil => exact absurd (by simpa using chars) identifier.1
  | cons first others =>
      have filled : Text.isBlank first = false :=
        Token.isBlank_of_isWordChar (identifier.2 first (by simp [chars]))
      simp [Text.trimStart, chars, filled]

theorem entries_of_definitions {registry : Registry} {columns : List (String × Descriptor)}
    {definitions : List (String × String)}
    (resolved : List.Forall₂ (fun column entry => entry.1 = column.1 ∧
      (sqlite.resolve registry column.2).outcome = .ok entry.2) columns definitions)
    (identifiers : ∀ column ∈ columns, Token.isIdentifier column.1 = true) :
    (∀ definition ∈ definitions, ColumnList.Scanner.Fits (entryText definition) ∧
      Text.trimStart (entryText definition).toList = (entryText definition).toList) ∧
    List.Forall₂ (fun column definition =>
        (∃ sql, (sqlite.resolve registry column.2).outcome = .ok sql ∧
          entryText definition = column.1 ++ " " ++ sql) ∧
        (∃ last, registry.Supplies column.2 last) ∧
        ∀ last, registry.Supplies column.2 last →
          EndsInDefault (entryText definition) last.defaultText) columns definitions := by
  induction resolved with
  | nil => exact ⟨by simp, .nil⟩
  | @cons column definition columns definitions head _ ih =>
      simp only [List.forall_mem_cons] at identifiers ⊢
      obtain ⟨fits, entries⟩ := ih identifiers.2
      obtain ⟨name, sql⟩ := definition
      obtain ⟨rfl, found⟩ := head
      obtain ⟨hops, last, columnType, token, chain, typed, written, rfl⟩ := chain_of_resolve found
      obtain rfl : sqliteType columnType = token := Option.some.inj written
      have entry := entry_fits identifiers.1 hops columnType last
      have supplies : registry.Supplies column.2 last := ⟨hops, columnType, chain, typed⟩
      refine ⟨⟨⟨entry.1, ?_⟩, fits⟩, .cons ⟨⟨_, found, rfl⟩, ⟨last, supplies⟩, ?_⟩ entries⟩
      · rw [entryText, String.append_assoc]
        exact trimStart_entry identifiers.1 _
      · intro other again
        rw [← supplies.unique again]
        exact entry.2

/-- A table can be created with the definitions of its columns, and no default leaves its literal:
its column list has one entry for each column, which is the name and the definition that the column
has by itself, and a default is the literal that ends its entry. -/
theorem creation_keeps_defaults {registry : Registry} {schema : Schema}
    {definitions : List (String × String)} (tablePrefix table : String)
    (filled : schema.columns ≠ [])
    (identifiers : ∀ column ∈ schema.columns, Token.isIdentifier column.1 = true)
    (defined : (sqlite.tableDefinitions registry schema).outcome = .ok definitions) :
    ∃ fragment list entries, (Query.creation tablePrefix table definitions).compile = .ok fragment ∧
      fragment.sql = "CREATE TABLE " ++ (tablePrefix ++ table) ++ list ∧
      ColumnList.read list.toList = some entries ∧
      List.Forall₂ (fun column entry =>
        (∃ definition, (sqlite.resolve registry column.2).outcome = .ok definition ∧
          entry = column.1 ++ " " ++ definition) ∧
        (∃ last, registry.Supplies column.2 last) ∧
        ∀ last, registry.Supplies column.2 last → EndsInDefault entry last.defaultText)
      schema.columns entries := by
  have resolved := columnDefinitions_ok defined
  have written : definitions ≠ [] := by
    rintro rfl
    exact filled (List.forall₂_nil_right_iff.mp resolved)
  have facts := entries_of_definitions resolved identifiers
  obtain ⟨first, rest, entries⟩ : ∃ first rest, definitions.map entryText = first :: rest :=
    List.exists_cons_of_ne_nil (by simpa using written)
  have fits : ∀ text ∈ first :: rest, ColumnList.Scanner.Fits text ∧
      Text.trimStart text.toList = text.toList := by
    rw [← entries]
    intro text member
    obtain ⟨definition, present, rfl⟩ := List.mem_map.mp member
    exact facts.1 definition present
  refine ⟨_, " (" ++ ", ".intercalate (first :: rest) ++ ")", first :: rest,
    Query.compile_creation tablePrefix table written, ?_, ?_, ?_⟩
  · rw [← entries]
    simp [Fragment.ofText]
  · exact ColumnList.read_list first rest (fun text member => (fits text member).1)
      fun text member => (fits text member).2
  · rw [← entries, List.forall₂_map_right_iff]
    exact facts.2

def guestId : Descriptor := { base := .atomic .int, primary := true, auto := true }

def guestNote : Descriptor :=
  { base := .atomic .string, nullable := some true, defaultText := some "'), (x'" }

def houseName : Descriptor :=
  { base := .atomic .text, primary := true, defaultText := some "it's, DEFAULT" }

def guests : Schema where
  columns := [("id", guestId), ("note", guestNote), ("group", { base := .reference "house" })]

def houses : Registry := [("house", { columns := [("name", houseName)] })]

def guestDefinitions : List (String × String) :=
  [("id", "INTEGER PRIMARY KEY AUTOINCREMENT"),
    ("note", "VARCHAR(120) NULL DEFAULT '''), (x'''"), ("group", "TEXT DEFAULT 'it''s, DEFAULT'")]

theorem creation_keeps_defaults_guests :
    guests.columns ≠ [] ∧ (∀ column ∈ guests.columns, Token.isIdentifier column.1 = true) ∧
      (sqlite.tableDefinitions houses guests).outcome = .ok guestDefinitions ∧
      ∃ fragment list entries,
        (Query.creation "p_" "guest" guestDefinitions).compile = .ok fragment ∧
        fragment.sql = "CREATE TABLE " ++ ("p_" ++ "guest") ++ list ∧
        ColumnList.read list.toList = some entries ∧
        List.Forall₂ (fun column entry =>
          (∃ definition, (sqlite.resolve houses column.2).outcome = .ok definition ∧
            entry = column.1 ++ " " ++ definition) ∧
          (∃ last, Registry.Supplies houses column.2 last) ∧
          ∀ last, Registry.Supplies houses column.2 last → EndsInDefault entry last.defaultText)
        guests.columns entries := by
  have typed {columnType : ColumnType} {descriptor : Descriptor}
      (atomic : descriptor.base = .atomic columnType) : (sqlite.resolve houses descriptor).outcome =
        sqlite.definition columnType descriptor := by
    rw [resolve, Registry.follow_atomic atomic]
    rfl
  have defined : (sqlite.tableDefinitions houses guests).outcome = .ok guestDefinitions := by
    have identity := typed (show guestId.base = .atomic .int from rfl)
    have note := typed (show guestNote.base = .atomic .string from rfl)
    have chain : houses.Chain { base := .reference "house" } [("house", "name")] houseName :=
      .hop rfl rfl (Schema.identity?_eq_some_iff.mp rfl) (Schema.descriptor?_eq_some_iff.mp rfl)
        (.ended houseName)
    have host := outcome_resolve sqlite chain (by decide)
    rw [Registry.follow_atomic rfl] at host
    simp only [tableDefinitions, guests, columnDefinitions, Logged.outcome_bind, identity, note,
      host]
    rfl
  have identifiers : ∀ column ∈ guests.columns, Token.isIdentifier column.1 = true := by decide
  have filled : guests.columns ≠ [] := by decide
  exact ⟨filled, identifiers, defined,
    creation_keeps_defaults "p_" "guest" filled identifiers defined⟩

end Dialect

end BoundSql
