import BoundSql.Predicate.Document
import BoundSql.Proofs.Words

/-! Compound keys. A key is read up to its first mark, and what stands there without the blanks
around it is its body. The first word of the body is the column, and the words after it write the
operator in one of its spellings. These keys are read, and no others. -/

namespace BoundSql

namespace Operator

def spellings : Operator → List String
  | .eq => ["=", "=="]
  | operator => [operator.sql]

def joined (words : List (List Char)) : String :=
  " ".intercalate (words.map fun word => String.ofList (word.map Char.toUpper))

/-- The words after a column write an operator, or there are none and no operator is written. -/
inductive Spelled : List (List Char) → Option Operator → Prop
  | absent : Spelled [] none
  | written {words : List (List Char)} {operator : Operator} :
      joined words ∈ operator.spellings → Spelled words (some operator)

theorem spaced_joined {words : List (List Char)}
    (free : ∀ word ∈ words, word ≠ [] ∧ ∀ char ∈ word, Text.isBlank char = false) :
    Text.Spaced (words.map Text.upper) (joined words).toList := by
  induction words with
  | nil => exact .blank (by simp [joined])
  | cons first rest ih =>
      simp only [List.forall_mem_cons] at free
      have filled : Text.upper first ≠ [] := by simpa [Text.upper] using free.1.1
      have nonblank : ∀ char ∈ Text.upper first, Text.isBlank char = false := by
        simpa [Text.upper, Text.isBlank_toUpper] using free.1.2
      have following := ih free.2
      cases rest with
      | nil =>
          have text : (joined [first]).toList = [] ++ Text.upper first ++ [] := by
            simp [joined, Text.upper]
          rw [text]
          exact .word [] _ [] (by simp) filled nonblank (by simp) (.blank (by simp))
      | cons second others =>
          have text : (joined (first :: second :: others)).toList =
              [] ++ Text.upper first ++ ' ' :: (joined (second :: others)).toList := by
            simp [joined, Text.upper, String.intercalate_cons_cons]
          rw [text]
          exact .word [] _ _ (by simp) filled nonblank (by simp [Text.isBlank])
            (following.cons_blank rfl)

theorem mem_spellings_of_ofWords? {words : List String} {operator : Operator}
    (denotes : ofWords? words = some operator) : " ".intercalate words ∈ operator.spellings := by
  unfold ofWords? at denotes
  split at denotes <;> simp only [Option.some.injEq, reduceCtorEq] at denotes <;> subst denotes <;>
    decide

theorem ofWords?_of_mem_spellings {text : String} {operator : Operator}
    (member : text ∈ operator.spellings) :
    ofWords? ((Text.words text.toList).map String.ofList) = some operator := by
  cases operator with
  | eq =>
      simp only [spellings, List.mem_cons, List.not_mem_nil, or_false] at member
      rcases member with rfl | rfl <;> rfl
  | _ =>
      simp only [spellings, sql, List.mem_singleton] at member
      subst member
      rfl

theorem ofText?_eq_some_iff {text : List Char} {operator : Operator} :
    ofText? (String.ofList text) = some operator ↔
      joined (Text.words text) ∈ operator.spellings := by
  -- The words in capitals are those of their own joined text, so both sides speak of one text.
  have same : (Text.words (joined (Text.words text)).toList).map String.ofList =
      (Text.words text).map fun word => String.ofList (Text.upper word) := by
    rw [Text.words_of_spaced (spaced_joined (Text.spaced_words text).word_free), List.map_map]
    rfl
  rw [ofText?, String.toList_ofList, ← same]
  constructor
  · intro denotes
    rw [same] at denotes
    exact mem_spellings_of_ofWords? denotes
  · exact ofWords?_of_mem_spellings

theorem spelled_none_iff {words : List (List Char)} : Spelled words none ↔ words = [] := by
  constructor
  · rintro ⟨⟩
    rfl
  · rintro rfl
    exact .absent

theorem spelled_some_iff {words : List (List Char)} {operator : Operator} :
    Spelled words (some operator) ↔ joined words ∈ operator.spellings :=
  ⟨fun | .written spelling => spelling, .written⟩

theorem spelled_nil_iff {operator : Option Operator} : Spelled [] operator ↔ operator = none := by
  cases operator with
  | none => simp [spelled_none_iff]
  | some operator =>
      have filled : "" ∉ operator.spellings := by cases operator <;> decide
      simpa [spelled_some_iff, joined] using filled

theorem spelled_words_iff {text : List Char} {operator : Option Operator}
    (filled : Text.words text ≠ []) :
    Spelled (Text.words text) operator ↔ some <$> read (String.ofList text) = .ok operator := by
  rw [map_eq_ok_iff]
  cases operator with
  | none => simpa [spelled_none_iff] using filled
  | some operator =>
      simp [spelled_some_iff, read, Error.ifNone_eq_ok_iff, ofText?_eq_some_iff]

theorem Spelled.mark_not_mem {words : List (List Char)} {operator : Option Operator}
    (spelled : Spelled words operator)
    (free : ∀ word ∈ words, word ≠ [] ∧ ∀ char ∈ word, Text.isBlank char = false) :
    ∀ word ∈ words, '#' ∉ word := by
  intro word member letter
  cases spelled with
  | absent => simp at member
  | @written _ operator spelling =>
      -- The mark has no capital, so it would stand in the spelling as well.
      have capital : '#' ∈ Text.upper word := List.mem_map_of_mem letter
      have marked := (spaced_joined free).mem_of_mem_word (List.mem_map_of_mem member) capital
      have unmarked : ∀ text ∈ operator.spellings, '#' ∉ text.toList := by
        cases operator <;> decide
      exact unmarked _ spelling marked

end Operator

theorem Connective.ofTag?_eq_some_iff {tag : String} {connective : Connective} :
    ofTag? tag = some connective ↔ tag = connective.sql := by
  unfold ofTag?
  split_ifs <;> cases connective <;> simp_all [sql]

theorem Connective.ofTag?_eq_none_iff {tag : String} :
    ofTag? tag = none ↔ tag ≠ "AND" ∧ tag ≠ "OR" := by
  unfold ofTag?
  split_ifs <;> simp_all

structure KeyColumn (column : String) : Prop where
  named : column ≠ ""
  free : ∀ char ∈ column.toList, Text.isBlank char = false ∧ char ≠ '#'
  noConnective : column ≠ "AND" ∧ column ≠ "OR"

namespace Predicate

/-- The body stands in the key between blanks, before the suffix. -/
structure KeyHolds (key : String) (body : List Char) : Prop where
  split : ∃ lead trail suffix, key.toList = lead ++ body ++ trail ++ suffix ∧
    (∀ char ∈ lead, Text.isBlank char = true) ∧ (∀ char ∈ trail, Text.isBlank char = true) ∧
    (suffix = [] ∨ suffix.head? = some '#')
  unmarked : '#' ∉ body
  trimmed : Text.Trimmed body

theorem keyBody_of_holds {key : String} {body : List Char} (holds : KeyHolds key body) :
    keyBody key = body := by
  obtain ⟨lead, trail, suffix, text, leadBlank, trailBlank, marked⟩ := holds.split
  have blankMark : Text.isBlank '#' = false := rfl
  have free : '#' ∉ lead ++ body ++ trail := by
    simp only [List.mem_append, not_or]
    refine ⟨⟨fun member => ?_, holds.unmarked⟩, fun member => ?_⟩
    · simp [leadBlank '#' member] at blankMark
    · simp [trailBlank '#' member] at blankMark
  rw [keyBody, text, Text.beforeMark_append_suffix free marked,
    Text.trim_append leadBlank trailBlank, Text.trim_eq_self holds.trimmed]

theorem keyHolds_keyBody (key : String) : KeyHolds key (keyBody key) := by
  obtain ⟨free, suffix, text, marked⟩ := Text.exists_beforeMark '#' key.toList
  obtain ⟨lead, trail, front, leadBlank, trailBlank⟩ :=
    Text.exists_trim (Text.beforeMark '#' key.toList)
  refine ⟨⟨lead, trail, suffix, ?_, leadBlank, trailBlank, marked⟩, ?_, Text.trimmed_trim _⟩
  · rw [keyBody, ← front]
    exact text
  · intro member
    rw [front] at free
    exact free (by simp [show '#' ∈ Text.trim _ from member])

theorem keyBody_eq_iff {key : String} {body : List Char} :
    keyBody key = body ↔ KeyHolds key body :=
  ⟨fun same => same ▸ keyHolds_keyBody key, keyBody_of_holds⟩

def groupKey? (key : String) : Option Connective := Connective.ofTag? (String.ofList (keyBody key))

theorem groupKey?_eq_some_iff {key : String} {connective : Connective} :
    groupKey? key = some connective ↔ KeyHolds key connective.sql.toList := by
  rw [groupKey?, Connective.ofTag?_eq_some_iff, ← keyBody_eq_iff, ← String.toList_inj,
    String.toList_ofList]

theorem groupKey?_eq_none_iff {key : String} :
    groupKey? key = none ↔ ∀ connective : Connective, ¬KeyHolds key connective.sql.toList := by
  simp only [← groupKey?_eq_some_iff, Option.eq_none_iff_forall_ne_some, ne_eq]

theorem ofMember_of_ofTag?_none {key : String} (json : Json)
    (column : Connective.ofTag? (String.ofList (keyBody key)) = none) :
    ofMember key json = Operand.ofJson json >>= ofKey key := by
  unfold ofMember
  rw [column]

theorem ofMember_of_ofTag?_some {key : String} {connective : Connective}
    (members : List (String × Json))
    (tag : Connective.ofTag? (String.ofList (keyBody key)) = some connective) :
    ofMember key (.object members) = .group connective <$> ofMembers members := by
  unfold ofMember
  rw [tag]

def writtenOperator : Option (List Char) → Except Error (Option Operator)
  | some text => some <$> Operator.read (String.ofList text)
  | none => .ok none

def conditionOn (body column : List Char) (operand : Operand) (operator : Option Operator) :
    Except Error Predicate :=
  if String.ofList column = "" then .error (.keyWithoutColumn (String.ofList body))
  else if (Connective.ofTag? (String.ofList column)).isSome then
    .error (.connectiveAsColumn (String.ofList column))
  else .ok (.condition ⟨String.ofList column, operator, operand⟩)

theorem ofKey_eq (key : String) (operand : Operand) :
    ofKey key operand = writtenOperator (Text.splitAtBlank (keyBody key)).2 >>=
      conditionOn (keyBody key) (Text.splitAtBlank (keyBody key)).1 operand := by
  unfold ofKey
  cases written : (Text.splitAtBlank (keyBody key)).2 <;> simp only [written] <;> rfl

theorem ofKey_eq_ok_iff_of_spaced {key : String} {column : List Char} {words : List (List Char)}
    {operand : Operand} {predicate : Predicate}
    (spaced : Text.Spaced (column :: words) (keyBody key)) :
    ofKey key operand = .ok predicate ↔
      Connective.ofTag? (String.ofList column) = none ∧
        ∃ operator, Operator.Spelled words operator ∧
          predicate = .condition ⟨String.ofList column, operator, operand⟩ := by
  have named : String.ofList column ≠ "" := by simpa using (spaced.word_free column (by simp)).1
  -- The operator is read before the column is looked at, but both have to be right.
  have placed (operator : Option Operator) :
      conditionOn (keyBody key) column operand operator = .ok predicate ↔
        Connective.ofTag? (String.ofList column) = none ∧
          predicate = .condition ⟨String.ofList column, operator, operand⟩ := by
    cases tag : Connective.ofTag? (String.ofList column) <;>
      simp [conditionOn, named, tag, eq_comm]
  obtain ⟨first, spelled⟩ : (Text.splitAtBlank (keyBody key)).1 = column ∧ ∀ operator,
      writtenOperator (Text.splitAtBlank (keyBody key)).2 = .ok operator ↔
        Operator.Spelled words operator := by
    rcases Text.splitAtBlank_of_spaced (keyHolds_keyBody key).trimmed spaced with
      ⟨split, rfl⟩ | ⟨written, split, rfl, filled⟩
    · rw [split]
      simp [writtenOperator, Operator.spelled_nil_iff, eq_comm]
    · rw [split]
      simp [writtenOperator, Operator.spelled_words_iff filled]
  rw [ofKey_eq, bind_eq_ok_iff, first]
  simp only [placed, spelled]
  constructor
  · rintro ⟨operator, written, tag, same⟩
    exact ⟨tag, operator, written, same⟩
  · rintro ⟨tag, operator, written, same⟩
    exact ⟨operator, written, tag, same⟩

theorem ofKey_eq_ok_iff {key : String} {operand : Operand} {predicate : Predicate} :
    ofKey key operand = .ok predicate ↔ ∃ column words operator,
      Text.Spaced (column :: words) (keyBody key) ∧
        Connective.ofTag? (String.ofList column) = none ∧ Operator.Spelled words operator ∧
          predicate = .condition ⟨String.ofList column, operator, operand⟩ := by
  constructor
  · intro read
    have spaced := Text.spaced_words (keyBody key)
    cases words : Text.words (keyBody key) with
    | nil =>
        rw [words] at spaced
        have empty := (keyHolds_keyBody key).trimmed.eq_nil_of_spaced spaced
        simp [ofKey_eq, empty, Text.splitAtBlank, writtenOperator, conditionOn, bind, Except.bind]
          at read
    | cons column following =>
        rw [words] at spaced
        obtain ⟨tag, operator, spelled, same⟩ := (ofKey_eq_ok_iff_of_spaced spaced).mp read
        exact ⟨column, following, operator, spaced, tag, spelled, same⟩
  · rintro ⟨column, words, operator, spaced, tag, spelled, same⟩
    exact (ofKey_eq_ok_iff_of_spaced spaced).mpr ⟨tag, operator, spelled, same⟩

theorem keyColumn_of_ofKey {key : String} {operand : Operand} {predicate : Predicate}
    (read : ofKey key operand = .ok predicate) : ∃ leaf, predicate = .condition leaf ∧
      KeyColumn leaf.column ∧ leaf.operand = operand := by
  obtain ⟨column, words, operator, spaced, tag, _, rfl⟩ := ofKey_eq_ok_iff.mp read
  have free := spaced.word_free column (by simp)
  refine ⟨_, rfl, ⟨by simpa using free.1, ?_, Connective.ofTag?_eq_none_iff.mp tag⟩, rfl⟩
  intro char letter
  rw [String.toList_ofList] at letter
  refine ⟨free.2 char letter, ?_⟩
  rintro rfl
  exact (keyHolds_keyBody key).unmarked (spaced.mem_of_mem_word (by simp) letter)

/-- Whether a key is read does not depend on what it is read with. -/
theorem exists_ofKey_of_ok {key : String} {operand : Operand} {predicate : Predicate}
    (read : ofKey key operand = .ok predicate) (other : Operand) :
    ∃ result, ofKey key other = .ok result := by
  obtain ⟨column, words, operator, spaced, tag, spelled, _⟩ := ofKey_eq_ok_iff.mp read
  exact ⟨_, ofKey_eq_ok_iff.mpr ⟨column, words, operator, spaced, tag, spelled, rfl⟩⟩

theorem groupKey?_of_ofKey {key : String} {operand : Operand} {predicate : Predicate}
    (read : ofKey key operand = .ok predicate) : groupKey? key = none := by
  obtain ⟨column, words, operator, spaced, tag, _, _⟩ := ofKey_eq_ok_iff.mp read
  rw [groupKey?_eq_none_iff]
  intro connective holds
  rw [keyBody_of_holds holds] at spaced
  have single : Text.words connective.sql.toList = [connective.sql.toList] := by
    cases connective <;> rfl
  have same := (Text.words_of_spaced spaced).symm.trans single
  simp only [List.cons.injEq] at same
  rw [same.1, String.ofList_toList, Connective.ofTag?_eq_some_iff.mpr rfl] at tag
  simp at tag

theorem category_of_writtenOperator {written : Option (List Char)} {error : Error}
    (unread : writtenOperator written = .error error) : error.category = .malformedPredicate := by
  cases written with
  | none => simp [writtenOperator] at unread
  | some text =>
      obtain ⟨_, rfl⟩ := Error.ifNone_eq_error_iff.mp (map_eq_error_iff.mp unread)
      rfl

theorem category_of_ofKey {key : String} {operand : Operand} {error : Error}
    (failed : ofKey key operand = .error error) : error.category = .malformedPredicate := by
  rw [ofKey_eq] at failed
  rcases bind_eq_error_iff.mp failed with unread | ⟨operator, _, refused⟩
  · exact category_of_writtenOperator unread
  · unfold conditionOn at refused
    split_ifs at refused <;> cases refused <;> rfl

end Predicate

/-- A way to write a key: the column and the words after it, each with the blanks before it, and
around them blanks and a suffix. -/
structure KeyLayout where
  lead : List Char
  column : String
  following : List (List Char × List Char)
  trail : List Char
  suffix : List Char
  leadBlank : ∀ char ∈ lead, Text.isBlank char = true
  keyColumn : KeyColumn column
  gapBlank : ∀ part ∈ following, part.1 ≠ [] ∧ ∀ char ∈ part.1, Text.isBlank char = true
  wordFree : ∀ part ∈ following, part.2 ≠ [] ∧ ∀ char ∈ part.2, Text.isBlank char = false
  trailBlank : ∀ char ∈ trail, Text.isBlank char = true
  marked : suffix = [] ∨ suffix.head? = some '#'

namespace KeyLayout

def words (layout : KeyLayout) : List (List Char) := layout.following.map Prod.snd

def body (layout : KeyLayout) : List Char :=
  layout.column.toList ++ layout.following.flatMap fun part => part.1 ++ part.2

def text (layout : KeyLayout) : String :=
  String.ofList (layout.lead ++ layout.body ++ layout.trail ++ layout.suffix)

theorem spaced_following {following : List (List Char × List Char)}
    (gapBlank : ∀ part ∈ following, part.1 ≠ [] ∧ ∀ char ∈ part.1, Text.isBlank char = true)
    (wordFree : ∀ part ∈ following, part.2 ≠ [] ∧ ∀ char ∈ part.2, Text.isBlank char = false) :
    Text.Spaced (following.map Prod.snd) (following.flatMap fun part => part.1 ++ part.2) ∧
      ∀ char ∈ (following.flatMap fun part => part.1 ++ part.2).head?,
        Text.isBlank char = true := by
  induction following with
  | nil => exact ⟨.blank (by simp), by simp⟩
  | cons part rest ih =>
      simp only [List.forall_mem_cons] at gapBlank wordFree
      obtain ⟨spaced, ends⟩ := ih gapBlank.2 wordFree.2
      constructor
      · exact .word part.1 part.2 _ gapBlank.1.2 wordFree.1.1 wordFree.1.2 ends spaced
      · intro char first
        obtain ⟨blank, others, gap⟩ := List.exists_cons_of_ne_nil gapBlank.1.1
        simp only [List.flatMap_cons, gap, List.cons_append, List.head?_cons] at first
        exact gapBlank.1.2 char (by simp_all)

theorem spaced_body (layout : KeyLayout) :
    Text.Spaced (layout.column.toList :: layout.words) layout.body := by
  obtain ⟨spaced, ends⟩ := spaced_following layout.gapBlank layout.wordFree
  have filled : layout.column.toList ≠ [] := by simpa using layout.keyColumn.named
  have free : ∀ char ∈ layout.column.toList, Text.isBlank char = false :=
    fun char member => (layout.keyColumn.free char member).1
  exact .word [] layout.column.toList _ (by simp) filled free ends spaced

theorem nonblank_of_getLast?_following {following : List (List Char × List Char)}
    (wordFree : ∀ part ∈ following, part.2 ≠ [] ∧ ∀ char ∈ part.2, Text.isBlank char = false) :
    ∀ char ∈ (following.flatMap fun part => part.1 ++ part.2).getLast?,
      Text.isBlank char = false := by
  induction following with
  | nil => simp
  | cons part rest ih =>
      simp only [List.forall_mem_cons] at wordFree
      intro char last
      rw [List.flatMap_cons, List.getLast?_append, Option.mem_def, Option.or_eq_some_iff] at last
      rcases last with later | ⟨_, here⟩
      · exact ih wordFree.2 char later
      · rw [List.getLast?_append, List.getLast?_eq_some_getLast wordFree.1.1, Option.some_or,
          Option.some.injEq] at here
        exact wordFree.1.2 char (here ▸ List.getLast_mem _)

theorem trimmed_body (layout : KeyLayout) : Text.Trimmed layout.body := by
  have free : ∀ char ∈ layout.column.toList, Text.isBlank char = false :=
    fun char member => (layout.keyColumn.free char member).1
  obtain ⟨first, rest, column⟩ :=
    List.exists_cons_of_ne_nil (show layout.column.toList ≠ [] by simpa using
      layout.keyColumn.named)
  constructor
  · intro char front
    rw [body, column, List.cons_append, List.head?_cons, Option.mem_def, Option.some.injEq] at front
    exact free char (by simp [column, front])
  · intro char back
    rw [body, List.getLast?_append, Option.mem_def, Option.or_eq_some_iff] at back
    rcases back with later | ⟨_, here⟩
    · exact nonblank_of_getLast?_following layout.wordFree char later
    · exact free char (List.mem_of_mem_getLast? here)

theorem keyHolds_text {layout : KeyLayout} {operator : Option Operator}
    (spelled : Operator.Spelled layout.words operator) :
    Predicate.KeyHolds layout.text layout.body where
  split := ⟨layout.lead, layout.trail, layout.suffix, by simp [text], layout.leadBlank,
    layout.trailBlank, layout.marked⟩
  unmarked := by
    simp only [body, List.mem_append, List.mem_flatMap, not_or, not_exists, not_and]
    refine ⟨fun member => (layout.keyColumn.free '#' member).2 rfl, fun part among => ?_⟩
    have free : ∀ word ∈ layout.words, word ≠ [] ∧ ∀ char ∈ word, Text.isBlank char = false :=
      fun word member => layout.spaced_body.word_free word (List.mem_cons_of_mem _ member)
    refine ⟨fun member => ?_, spelled.mark_not_mem free part.2 (List.mem_map_of_mem among)⟩
    have blank : Text.isBlank '#' = true := (layout.gapBlank part among).2 '#' member
    simp [Text.isBlank] at blank
  trimmed := layout.trimmed_body

theorem ofKey_text {layout : KeyLayout} {operator : Option Operator}
    (spelled : Operator.Spelled layout.words operator) (operand : Operand) :
    Predicate.ofKey layout.text operand = .ok (.condition ⟨layout.column, operator, operand⟩) := by
  have tag : Connective.ofTag? (String.ofList layout.column.toList) = none := by
    rw [String.ofList_toList]
    exact Connective.ofTag?_eq_none_iff.mpr layout.keyColumn.noConnective
  rw [Predicate.ofKey_eq_ok_iff, Predicate.keyBody_of_holds (keyHolds_text spelled)]
  exact ⟨layout.column.toList, layout.words, operator, layout.spaced_body, tag, spelled, by simp⟩

end KeyLayout

namespace Predicate

/-- The keys that are read, and what they are read as. -/
theorem ofKey_reads_exactly (key : String) (operand : Operand) :
    ∃ body, KeyHolds key body ∧ (∀ other, KeyHolds key other → other = body) ∧
      (∀ predicate, ofKey key operand = .ok predicate ↔ ∃ column words operator,
        Text.Spaced (column :: words) body ∧
          (String.ofList column ≠ "AND" ∧ String.ofList column ≠ "OR") ∧
          Operator.Spelled words operator ∧
          predicate = .condition ⟨String.ofList column, operator, operand⟩) ∧
      (∀ error, ofKey key operand = .error error → error.category = .malformedPredicate) ∧
      ∀ (layout : KeyLayout) (operator : Option Operator), layout.text = key →
        Operator.Spelled layout.words operator →
          ofKey key operand = .ok (.condition ⟨layout.column, operator, operand⟩) := by
  refine ⟨keyBody key, keyHolds_keyBody key, ?_, ?_, ?_, ?_⟩
  · exact fun other holds => (keyBody_of_holds holds).symm
  · intro predicate
    simp only [ofKey_eq_ok_iff, Connective.ofTag?_eq_none_iff]
  · exact fun error => category_of_ofKey
  · rintro layout operator rfl spelled
    exact KeyLayout.ofKey_text spelled operand

def rowKey : KeyLayout where
  lead := [' ', ' ']
  column := "row"
  following := [([' ', ' ', ' '], ['n', 'o', 't']), (['\t'], ['l', 'i', 'k', 'e'])]
  trail := [' ']
  suffix := ['#', '2']
  leadBlank := by simp [Text.isBlank]
  keyColumn := ⟨by simp, by simp [Text.isBlank], by simp⟩
  gapBlank := by simp [Text.isBlank]
  wordFree := by simp [Text.isBlank]
  trailBlank := by simp [Text.isBlank]
  marked := .inr rfl

theorem ofKey_reads_exactly_rowKey :
    rowKey.text = "  row   not\tlike #2" ∧ Operator.Spelled rowKey.words (some .notLike) ∧
      ofKey "  row   not\tlike #2" (.scalar .null) =
        .ok (.condition ⟨"row", some .notLike, .scalar .null⟩) := by
  have text : rowKey.text = "  row   not\tlike #2" := by decide
  have spelled : Operator.Spelled rowKey.words (some .notLike) := .written (by decide)
  obtain ⟨_, _, _, _, _, written⟩ := ofKey_reads_exactly "  row   not\tlike #2" (.scalar .null)
  exact ⟨text, spelled, written rowKey (some .notLike) text spelled⟩

end Predicate

end BoundSql
