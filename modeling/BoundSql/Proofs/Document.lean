import BoundSql.Proofs.CompoundKey
import BoundSql.Proofs.Conditions

/-! Groups of predicates written as JSON objects and read back. The key of a child is the column
with its operator, or the connective, and ends in `#` and the number of the child, so that no two
children of a group have the same key. -/

namespace BoundSql

namespace Value

def isJson : Value → Bool
  | .null => true
  | .bool _ => true
  | .int _ => true
  | .double value => value.isFinite
  | .text _ => true
  | _ => false

def toJson : Value → Json
  | .bool value => .bool value
  | .int value => .int value.toInt
  | .double value => .double value
  | .text value => .text value
  | _ => .null

theorem ofJson_toJson {value : Value} (scalar : value.isJson = true) :
    ofJson value.toJson = .ok value := by
  cases value with
  | int number =>
      have range : Int64.minValue.toInt ≤ number.toInt ∧ number.toInt ≤ Int64.maxValue.toInt :=
        ⟨number.minValue_le_toInt, number.toInt_le⟩
      simp only [toJson, ofJson, range, and_self, if_true, Int64.ofInt_toInt]
  | null => rfl
  | bool _ => rfl
  | double _ => rfl
  | text _ => rfl
  | _ => simp [isJson] at scalar

theorem listOfJson_toJson {values : List Value} (scalars : ∀ value ∈ values, value.isJson = true) :
    listOfJson (values.map toJson) = .ok values := by
  induction values with
  | nil => rfl
  | cons first rest ih =>
      simp only [List.forall_mem_cons] at scalars
      rw [List.map_cons, listOfJson, ofJson_toJson scalars.1, ih scalars.2]
      rfl

end Value

namespace Operand

def isJson : Operand → Bool
  | .scalar value => value.isJson
  | .list values => values.all Value.isJson

def toJson : Operand → Json
  | .scalar value => value.toJson
  | .list values => .array (values.map Value.toJson)

theorem ofJson_toJson {operand : Operand} (fits : operand.isJson = true) :
    ofJson operand.toJson = .ok operand := by
  cases operand with
  | scalar value =>
      have read := Value.ofJson_toJson fits
      cases value with
      | _ => simp_all [toJson, ofJson, Value.toJson, Functor.map, Except.map]
  | list values =>
      have read := Value.listOfJson_toJson (List.all_eq_true.mp fits)
      simp [toJson, ofJson, read, Functor.map, Except.map]

theorem settled_toJson (operand : Operand) : operand.toJson.Settled := by
  have scalar (value : Value) : value.toJson.Settled := by
    cases value <;> trivial
  cases operand with
  | scalar value => exact scalar value
  | list values =>
      change Json.SettledItems (values.map Value.toJson)
      induction values with
      | nil => trivial
      | cons first rest ih => exact ⟨scalar first, ih⟩

end Operand

/-- `name#2` for the second child of a group. -/
def numberedKey (name : String) (number : Nat) : String := name ++ "#" ++ toString number

theorem numberedKey_inj {name other : String} {number second : Nat} (free : '#' ∉ name.toList)
    (otherFree : '#' ∉ other.toList) (same : numberedKey name number = numberedKey other second) :
    number = second := by
  have chars := congrArg String.toList same
  simp only [numberedKey, String.toList_append, List.append_assoc] at chars
  have cut := congrArg (List.dropWhile (· != '#')) chars
  have kept (text : String) (unmarked : '#' ∉ text.toList) :
      ∀ char ∈ text.toList, (char != '#') = true := by
    intro char member
    simp only [bne_iff_ne]
    rintro rfl
    exact unmarked member
  rw [List.dropWhile_append_of_pos (kept name free),
    List.dropWhile_append_of_pos (kept other otherFree)] at cut
  apply Text.toString_inj
  apply String.ext
  simpa using cut

theorem Connective.groupKey?_sql (connective : Connective) (number : Nat) :
    Predicate.groupKey? (numberedKey connective.sql number) = some connective := by
  refine Predicate.groupKey?_eq_some_iff.mpr ⟨?_, ?_, ?_⟩
  · exact ⟨[], [], '#' :: (toString number).toList, by simp [numberedKey], by simp, by simp,
      .inr rfl⟩
  · cases connective <;> decide
  · cases connective <;> constructor <;> simp [sql, Text.isBlank]

namespace Condition

def name (condition : Condition) : String :=
  match condition.operator with
  | some operator => condition.column ++ " " ++ operator.sql
  | none => condition.column

def following (condition : Condition) : List (List Char × List Char) :=
  match condition.operator with
  | some operator => (Text.words operator.sql.toList).map fun word => ([' '], word)
  | none => []

theorem name_eq (condition : Condition) : condition.name.toList =
    condition.column.toList ++ condition.following.flatMap fun part => part.1 ++ part.2 := by
  cases written : condition.operator with
  | none => simp [name, following, written]
  | some operator =>
      have spaced : " ".toList ++ operator.sql.toList =
          ((Text.words operator.sql.toList).map fun word => ([' '], word)).flatMap
            fun part => part.1 ++ part.2 := by
        cases operator <;> rfl
      simp [name, following, written, ← spaced]

/-- The condition can stand in a JSON object under its column and operator. -/
structure Writable (condition : Condition) : Prop where
  named : condition.column ≠ ""
  free : ∀ char ∈ condition.column.toList, Text.isBlank char = false ∧ char ≠ '#'
  noConnective : condition.column ≠ "AND" ∧ condition.column ≠ "OR"
  operand : condition.operand.isJson = true

instance (condition : Condition) : Decidable condition.Writable :=
  decidable_of_iff
    (condition.column ≠ "" ∧
      condition.column.toList.all (fun char => !Text.isBlank char && char != '#') = true ∧
      (condition.column ≠ "AND" ∧ condition.column ≠ "OR") ∧ condition.operand.isJson = true)
    ⟨fun ⟨named, free, noConnective, operand⟩ =>
        ⟨named, by simpa using free, noConnective, operand⟩,
      fun writable =>
        ⟨writable.named, by simpa using writable.free, writable.noConnective, writable.operand⟩⟩

variable {condition : Condition} (writable : condition.Writable)

include writable

theorem Writable.keyColumn : KeyColumn condition.column :=
  ⟨writable.named, writable.free, writable.noConnective⟩

def Writable.layout (number : Nat) : KeyLayout where
  lead := []
  column := condition.column
  following := condition.following
  trail := []
  suffix := '#' :: (toString number).toList
  leadBlank := by simp
  keyColumn := writable.keyColumn
  gapBlank := by
    unfold following
    split <;> simp [Text.isBlank]
  wordFree := by
    unfold following
    split
    · simpa using (Text.spaced_words _).word_free
    · simp
  trailBlank := by simp
  marked := .inr rfl

theorem Writable.text_layout (number : Nat) :
    (writable.layout number).text = numberedKey condition.name number := by
  rw [← String.toList_inj]
  simp [KeyLayout.text, KeyLayout.body, layout, numberedKey, condition.name_eq]

theorem Writable.spelled_layout (number : Nat) :
    Operator.Spelled (writable.layout number).words condition.operator := by
  change Operator.Spelled (condition.following.map Prod.snd) condition.operator
  unfold following
  cases written : condition.operator with
  | none => simp [Operator.spelled_none_iff]
  | some operator =>
      simp only [Operator.spelled_some_iff]
      cases operator <;> decide

theorem Writable.mark_not_mem_name : '#' ∉ condition.name.toList := by
  rw [condition.name_eq]
  exact (KeyLayout.keyHolds_text (writable.spelled_layout 0)).unmarked

theorem Writable.ofKey_name (number : Nat) :
    Predicate.ofKey (numberedKey condition.name number) condition.operand =
      .ok (.condition condition) := by
  rw [← writable.text_layout number]
  exact KeyLayout.ofKey_text (writable.spelled_layout number) condition.operand

theorem Writable.groupKey?_name (number : Nat) :
    Predicate.groupKey? (numberedKey condition.name number) = none :=
  Predicate.groupKey?_of_ofKey (writable.ofKey_name number)

end Condition

namespace Predicate

section Writer

variable (first : Nat)

mutual

def toMember (number : Nat) : Predicate → String × Json
  | .condition leaf => (numberedKey leaf.name number, leaf.operand.toJson)
  | .group connective children =>
      (numberedKey connective.sql number, .object (toMembers first children))

def toMembers (number : Nat) : List Predicate → List (String × Json)
  | [] => []
  | child :: rest => toMember number child :: toMembers (number + 1) rest

end

theorem key_toMember {child : Predicate} (writable : ∀ leaf ∈ child.conditions, leaf.Writable)
    (number : Nat) : ∃ name, '#' ∉ name.toList ∧
      (child.toMember first number).1 = numberedKey name number := by
  cases child with
  | condition leaf =>
      exact ⟨leaf.name, (writable leaf (by simp [conditions])).mark_not_mem_name, rfl⟩
  | group connective children =>
      exact ⟨connective.sql, by cases connective <;> decide, rfl⟩

theorem key_of_mem_toMembers {children : List Predicate}
    (writable : ∀ leaf ∈ childConditions children, leaf.Writable) (number : Nat) :
    ∀ key ∈ Keyed.keys (toMembers first number children), ∃ name place, number ≤ place ∧
      '#' ∉ name.toList ∧ key = numberedKey name place := by
  induction children generalizing number with
  | nil => simp [toMembers, Keyed.keys]
  | cons child rest ih =>
      simp only [childConditions, List.mem_append, or_imp, forall_and] at writable
      intro key member
      rcases List.mem_cons.mp member with same | later
      · obtain ⟨name, free, found⟩ := key_toMember first writable.1 number
        exact ⟨name, number, Nat.le_refl _, free, same.trans found⟩
      · obtain ⟨name, place, bound, free, found⟩ := ih writable.2 (number + 1) key later
        exact ⟨name, place, by omega, free, found⟩

theorem keys_toMembers_nodup {children : List Predicate}
    (writable : ∀ leaf ∈ childConditions children, leaf.Writable) (number : Nat) :
    (Keyed.keys (toMembers first number children)).Nodup := by
  induction children generalizing number with
  | nil => simp [toMembers, Keyed.keys]
  | cons child rest ih =>
      simp only [childConditions, List.mem_append, or_imp, forall_and] at writable
      refine List.nodup_cons.mpr ⟨?_, ih writable.2 (number + 1)⟩
      intro again
      obtain ⟨name, free, found⟩ := key_toMember first writable.1 number
      obtain ⟨other, place, bound, otherFree, same⟩ :=
        key_of_mem_toMembers first writable.2 (number + 1) _ again
      have equal := numberedKey_inj free otherFree (found.symm.trans same)
      omega

mutual

theorem settled_toMember : ∀ (child : Predicate) (number : Nat),
    (∀ leaf ∈ child.conditions, leaf.Writable) → (child.toMember first number).2.Settled
  | .condition leaf, _, _ => leaf.operand.settled_toJson
  | .group _ children, _, writable =>
      ⟨keys_toMembers_nodup first writable first, settled_toMembers children first writable⟩

theorem settled_toMembers : ∀ (children : List Predicate) (number : Nat),
    (∀ leaf ∈ childConditions children, leaf.Writable) →
      Json.SettledMembers (toMembers first number children)
  | [], _, _ => trivial
  | child :: rest, number, writable => by
      simp only [childConditions, List.mem_append, or_imp, forall_and] at writable
      exact ⟨settled_toMember child number writable.1,
        settled_toMembers rest (number + 1) writable.2⟩

end

mutual

theorem ofMember_toMember : ∀ (child : Predicate) (number : Nat),
    (∀ leaf ∈ child.conditions, leaf.Writable) →
      ofMember (child.toMember first number).1 (child.toMember first number).2 = .ok child
  | .condition leaf, number, writable => by
      have written : leaf.Writable := writable leaf (by simp [conditions])
      rw [toMember, ofMember_of_ofTag?_none _ (written.groupKey?_name number),
        Operand.ofJson_toJson written.operand]
      exact written.ofKey_name number
  | .group connective children, number, writable => by
      rw [toMember, ofMember_of_ofTag?_some _ (connective.groupKey?_sql number),
        ofMembers_toMembers children first writable]
      rfl

theorem ofMembers_toMembers : ∀ (children : List Predicate) (number : Nat),
    (∀ leaf ∈ childConditions children, leaf.Writable) →
      ofMembers (toMembers first number children) = .ok children
  | [], _, _ => rfl
  | child :: rest, number, writable => by
      simp only [childConditions, List.mem_append, or_imp, forall_and] at writable
      rw [toMembers, ofMembers, ofMember_toMember child number writable.1,
        ofMembers_toMembers rest (number + 1) writable.2]
      rfl

end

def groupToJson (connective : Connective) (children : List Predicate) : Json :=
  .object [(connective.sql, .object (toMembers first first children))]

end Writer

/-- A group can be written as a JSON object in which no key occurs twice, and reading the object
gives back the group. -/
theorem ofJson_groupToJson (first : Nat) (connective : Connective) (children : List Predicate)
    (writable : ∀ leaf ∈ (group connective children).conditions, leaf.Writable) :
    (groupToJson first connective children).Settled ∧
      ofJson (groupToJson first connective children) = .ok (.group connective children) := by
  constructor
  · refine ⟨by simp [Keyed.keys], ?_, trivial⟩
    exact ⟨keys_toMembers_nodup first writable first,
      settled_toMembers first children first writable⟩
  · have tag : Connective.ofTag? (String.ofList (keyBody connective.sql)) = some connective := by
      cases connective <;> rfl
    rw [groupToJson, ofJson, ofMembers, ofMember_of_ofTag?_some _ tag,
      ofMembers_toMembers first children first writable]
    rfl

def seats : List Predicate :=
  [compare "row" .ge (.scalar (.int 3)), compare "row" .lt (.scalar (.int 9)),
    all [eq "state" .null, compare "state" .notLike (.scalar (.text "#%")), any []],
    compare "block" .notWithin (.list [.text "A", .bool true])]

theorem ofJson_groupToJson_seats :
    (∀ leaf ∈ (group .or seats).conditions, leaf.Writable) ∧
      groupToJson 1 .or seats = .object [("OR", .object [("row >=#1", .int 3), ("row <#2", .int 9),
        ("AND#3", .object [("state#1", .null), ("state NOT LIKE#2", .text "#%"),
          ("OR#3", .object [])]),
        ("block NOT IN#4", .array [.text "A", .bool true])])] ∧
      (groupToJson 1 .or seats).Settled ∧
      ofJson (groupToJson 1 .or seats) = .ok (.group .or seats) := by
  have writable : ∀ leaf ∈ (group .or seats).conditions, leaf.Writable := by decide
  exact ⟨writable, by cbv, ofJson_groupToJson 1 .or seats writable⟩

end Predicate

end BoundSql
