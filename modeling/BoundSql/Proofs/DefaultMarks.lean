import BoundSql.Proofs.ColumnList
import Mathlib.Algebra.GroupWithZero.Nat

/-! Question marks in created tables. The creation of a table binds nothing, and the marks of its
text that no name brings in are those of the defaults, which stand there as literals. -/

namespace BoundSql

namespace Text

def marks (text : String) : Nat := text.toList.count '?'

@[simp] theorem marks_append (left right : String) :
    marks (left ++ right) = marks left + marks right := by
  simp [marks]

theorem marks_eq_zero_iff {text : String} : marks text = 0 ↔ '?' ∉ text.toList :=
  List.count_eq_zero

theorem marks_intercalate {separator : String} (free : marks separator = 0) (texts : List String) :
    marks (separator.intercalate texts) = (texts.map marks).sum := by
  induction texts with
  | nil => rfl
  | cons first rest ih =>
      cases rest with
      | nil => simp
      | cons second others =>
          rw [String.intercalate_cons_cons, marks_append, marks_append, free, ih]
          simp

theorem marks_literal (text : String) : marks (Dialect.literal text) = marks text := by
  have quote : '\'' ≠ '?' := by decide
  have body (chars : List Char) :
      (chars.flatMap ColumnList.doubled).count '?' = chars.count '?' := by
    induction chars with
    | nil => rfl
    | cons char rest ih =>
        rw [List.flatMap_cons, List.count_append, ih, ColumnList.doubled]
        split
        · rename_i same
          simp [same, quote]
        · simp [List.count_cons, Nat.add_comm]
  rw [marks, ColumnList.toList_literal]
  simp [quote, body, marks]

end Text

namespace Descriptor

def defaultMarks (descriptor : Descriptor) : Nat := Text.marks (descriptor.defaultText.getD "")

theorem defaultMarks_eq_zero_iff {descriptor : Descriptor} :
    descriptor.defaultMarks = 0 ↔
      ∀ text, descriptor.defaultText = some text → '?' ∉ text.toList := by
  rw [defaultMarks, Text.marks_eq_zero_iff]
  cases descriptor.defaultText <;> simp

end Descriptor

namespace Dialect

theorem marks_sqliteType (columnType : ColumnType) : Text.marks (sqliteType columnType) = 0 := by
  cases columnType <;> decide

theorem marks_keyTokens (hops : List (String × String)) (descriptor : Descriptor) :
    ((sqlite.keyTokens hops descriptor).map Text.marks).sum = 0 := by
  have primaryKey : Text.marks sqlite.primaryKey = 0 := by decide
  have autoIncrement : Text.marks sqlite.autoIncrement = 0 := by decide
  cases hops with
  | nil =>
      cases primary : descriptor.primary <;> cases auto : descriptor.auto <;>
        simp [keyTokens, primary, auto, primaryKey, autoIncrement]
  | cons hop rest => rfl

theorem marks_nullability (nullable : Bool) : Text.marks (sqlite.nullability nullable) = 0 := by
  cases nullable <;> decide

theorem marks_columnTokens (hops : List (String × String)) (descriptor : Descriptor) :
    ((sqlite.columnTokens hops descriptor).map Text.marks).sum = descriptor.defaultMarks := by
  have keyword : Text.marks sqlite.defaultKeyword = 0 := by decide
  have blank : Text.marks " " = 0 := by decide
  have nothing : Text.marks "" = 0 := rfl
  simp only [columnTokens, List.map_append, List.sum_append, marks_keyTokens,
    Descriptor.defaultMarks]
  cases descriptor.nullable <;> cases descriptor.defaultText <;>
    simp [marks_nullability, Text.marks_literal, keyword, blank, nothing]

theorem marks_of_resolve {registry : Registry} {start : Descriptor} {text : String}
    (resolved : (sqlite.resolve registry start).outcome = .ok text) :
    ∃ last, registry.Supplies start last ∧ Text.marks text = last.defaultMarks := by
  obtain ⟨hops, last, columnType, token, chain, typed, written, rfl⟩ := chain_of_resolve resolved
  obtain rfl : sqliteType columnType = token := Option.some.inj written
  refine ⟨last, ⟨hops, columnType, chain, typed⟩, ?_⟩
  rw [Text.marks_intercalate (by decide), List.map_cons, List.sum_cons, marks_columnTokens,
    marks_sqliteType, Nat.zero_add]

theorem marks_of_definitions {registry : Registry} {columns : List (String × Descriptor)}
    {definitions : List (String × String)}
    (resolved : List.Forall₂ (fun column entry => entry.1 = column.1 ∧
      (sqlite.resolve registry column.2).outcome = .ok entry.2) columns definitions)
    (namesFree : ∀ column ∈ columns, '?' ∉ column.1.toList) :
    ∃ lasts, List.Forall₂ (fun column last => registry.Supplies column.2 last) columns lasts ∧
      (definitions.map fun definition => Text.marks (Query.entryText definition)).sum =
        (lasts.map Descriptor.defaultMarks).sum := by
  induction resolved with
  | nil => exact ⟨[], .nil, rfl⟩
  | @cons column definition columns definitions head _ ih =>
      rw [List.forall_mem_cons] at namesFree
      obtain ⟨lasts, supplied, total⟩ := ih namesFree.2
      obtain ⟨same, found⟩ := head
      obtain ⟨last, supplies, marks⟩ := marks_of_resolve found
      have name : Text.marks definition.1 = 0 := by
        rw [same, Text.marks_eq_zero_iff]
        exact namesFree.1
      have blank : Text.marks " " = 0 := by decide
      have entry : Text.marks (Query.entryText definition) = last.defaultMarks := by
        rw [Query.entryText, Text.marks_append, Text.marks_append, name, blank, marks]
        simp
      refine ⟨last :: lasts, .cons supplies supplied, ?_⟩
      rw [List.map_cons, List.sum_cons, entry, total, List.map_cons, List.sum_cons]

end Dialect

namespace Query

theorem markCount_creation {tablePrefix table : String} {definitions : List (String × String)}
    {fragment : Fragment} (filled : definitions ≠ [])
    (tableFree : '?' ∉ (tablePrefix ++ table).toList)
    (compiled : (creation tablePrefix table definitions).compile = .ok fragment) :
    fragment.markCount =
      (definitions.map fun definition => Text.marks (entryText definition)).sum := by
  rw [compile_creation tablePrefix table filled, Except.ok.injEq] at compiled
  have whole : fragment.markCount = Text.marks ("CREATE TABLE " ++ (tablePrefix ++ table) ++
      (" (" ++ ", ".intercalate (definitions.map entryText) ++ ")")) := by
    simp [← compiled, Fragment.markCount, Fragment.ofText, Text.marks]
  have heading : Text.marks "CREATE TABLE " = 0 := by decide
  have opening : Text.marks " (" = 0 := by decide
  have closing : Text.marks ")" = 0 := by decide
  have name : Text.marks (tablePrefix ++ table) = 0 := Text.marks_eq_zero_iff.mpr tableFree
  have separator : Text.marks ", " = 0 := by decide
  have entries := Text.marks_intercalate separator (definitions.map entryText)
  rw [List.map_map] at entries
  rw [whole, Text.marks_append, Text.marks_append, heading, name, Text.marks_append,
    Text.marks_append, opening, closing, entries]
  simp [Function.comp_def]

end Query

namespace Dialect

/-- Where no name has a mark, the creation of a table has as many marks as its defaults and binds
no value. So the two numbers agree exactly if no default that is supplied has a mark. -/
theorem creation_counts_default_marks {registry : Registry} {schema : Schema}
    {definitions : List (String × String)} (tablePrefix table : String)
    (filled : schema.columns ≠ []) (tableFree : '?' ∉ (tablePrefix ++ table).toList)
    (namesFree : ∀ column ∈ schema.columns, '?' ∉ column.1.toList)
    (defined : (sqlite.tableDefinitions registry schema).outcome = .ok definitions) :
    ∃ fragment lasts, (Query.creation tablePrefix table definitions).compile = .ok fragment ∧
      fragment.values = [] ∧
      List.Forall₂ (fun column last => registry.Supplies column.2 last) schema.columns lasts ∧
      fragment.markCount = (lasts.map Descriptor.defaultMarks).sum ∧
      (fragment.markCount = fragment.values.length ↔
        ∀ last ∈ lasts, ∀ text, last.defaultText = some text → '?' ∉ text.toList) := by
  have resolved := columnDefinitions_ok defined
  have written : definitions ≠ [] := by
    rintro rfl
    exact filled (List.forall₂_nil_right_iff.mp resolved)
  obtain ⟨lasts, supplied, total⟩ := marks_of_definitions resolved namesFree
  have compiled := Query.compile_creation tablePrefix table written
  have counted := (Query.markCount_creation written tableFree compiled).trans total
  refine ⟨_, lasts, compiled, rfl, supplied, counted, ?_⟩
  rw [counted, Fragment.ofText, Fragment.values_text, Fragment.values_nil, List.length_nil,
    List.sum_eq_zero_iff_forall_eq_nat]
  simp only [List.forall_mem_map, Descriptor.defaultMarks_eq_zero_iff]

def topicTitle : Descriptor :=
  { base := .atomic .string, primary := true, defaultText := some "who? what?" }

def questions : Schema where
  columns := [("text", { base := .atomic .text, defaultText := some "it's why?" }),
    ("topic", { base := .reference "topic" })]

def topics : Registry := [("topic", { columns := [("title", topicTitle)] })]

def questionDefinitions : List (String × String) :=
  [("text", "TEXT DEFAULT 'it''s why?'"), ("topic", "VARCHAR(120) DEFAULT 'who? what?'")]

theorem questions_defined :
    (sqlite.tableDefinitions topics questions).outcome = .ok questionDefinitions := by
  have own : (sqlite.resolve topics
      { base := .atomic .text, defaultText := some "it's why?" }).outcome =
        .ok "TEXT DEFAULT 'it''s why?'" := by
    rw [resolve, Registry.follow_atomic rfl]
    rfl
  have chain : topics.Chain { base := .reference "topic" } [("topic", "title")] topicTitle :=
    .hop rfl rfl (Schema.identity?_eq_some_iff.mp rfl) (Schema.descriptor?_eq_some_iff.mp rfl)
      (.ended topicTitle)
  have supplied := outcome_resolve sqlite chain (by decide)
  rw [Registry.follow_atomic rfl] at supplied
  simp only [tableDefinitions, questions, columnDefinitions, Logged.outcome_bind, own, supplied]
  rfl

theorem creation_counts_default_marks_questions :
    questions.columns ≠ [] ∧ '?' ∉ ("p_" ++ "question").toList ∧
      (∀ column ∈ questions.columns, '?' ∉ column.1.toList) ∧
      (sqlite.tableDefinitions topics questions).outcome = .ok questionDefinitions ∧
      ∃ fragment lasts,
        (Query.creation "p_" "question" questionDefinitions).compile = .ok fragment ∧
        fragment.values = [] ∧
        List.Forall₂ (fun column last => Registry.Supplies topics column.2 last) questions.columns
          lasts ∧
        fragment.markCount = (lasts.map Descriptor.defaultMarks).sum := by
  have namesFree : ∀ column ∈ questions.columns, '?' ∉ column.1.toList := by decide
  obtain ⟨fragment, lasts, compiled, unbound, supplied, counted, _⟩ :=
    creation_counts_default_marks "p_" "question" (by decide) (by decide) namesFree
      questions_defined
  exact ⟨by decide, by decide, namesFree, questions_defined, fragment, lasts, compiled, unbound,
    supplied, counted⟩

/-- The three marks of the defaults are counted, and nothing is bound. -/
theorem default_marks_without_values :
    questions.columns ≠ [] ∧ '?' ∉ ("p_" ++ "question").toList ∧
      (∀ column ∈ questions.columns, '?' ∉ column.1.toList) ∧
      (sqlite.tableDefinitions topics questions).outcome = .ok questionDefinitions ∧
      ∃ fragment, (Query.creation "p_" "question" questionDefinitions).compile = .ok fragment ∧
        fragment.sql = "CREATE TABLE p_question (text TEXT DEFAULT 'it''s why?', " ++
          "topic VARCHAR(120) DEFAULT 'who? what?')" ∧
        fragment.markCount = 3 ∧ fragment.values.length = 0 :=
  ⟨by decide, by decide, by decide, questions_defined, _,
    Query.compile_creation "p_" "question" (by decide), by decide, by decide, rfl⟩

end Dialect

end BoundSql
