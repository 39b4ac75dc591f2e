import BoundSql.Proofs.CompoundKey
import BoundSql.Proofs.FirstFault
import BoundSql.Proofs.NearestDouble
import Mathlib.Data.List.Forall2

/-! The entries of a predicate document: the members of its object and, after each member that is a
group, the entries of that group. Reading the document fails at the first entry that has a fault,
and an entry without a fault is accepted. -/

namespace BoundSql

def Json.IsScalar : Json → Prop
  | .array _ => False
  | .object _ => False
  | _ => True

namespace Value

def Refused (json : Json) (error : Error) : Prop := ¬json.IsScalar ∧ error = .notScalar json

theorem exists_refused_iff {json : Json} : (∃ error, Refused json error) ↔ ¬json.IsScalar := by
  simp [Refused]

theorem ofJson_eq_error_iff {json : Json} {error : Error} :
    ofJson json = .error error ↔ Refused json error := by
  cases json with
  | int value =>
      simp only [ofJson, Refused, Json.IsScalar, not_true_eq_false, false_and, iff_false]
      split_ifs <;> simp
  | _ => simp [ofJson, Refused, Json.IsScalar, eq_comm]

/-- What a JSON scalar means. A whole number of 64 bits is exact, and any other one is the nearest
double. -/
inductive Denoted : Json → Value → Prop
  | null : Denoted .null .null
  | bool (value : Bool) : Denoted (.bool value) (.bool value)
  | whole {number : Int} {value : Int64} :
      value.toInt = number → Denoted (.int number) (.int value)
  | beyond {number : Int} {value : Binary64} : (∀ exact : Int64, exact.toInt ≠ number) →
      Binary64.Nearest (number < 0) number.natAbs value → Denoted (.int number) (.double value)
  | double (value : Binary64) : Denoted (.double value) (.double value)
  | text (value : String) : Denoted (.text value) (.text value)

theorem exists_toInt_eq_iff {number : Int} : (∃ value : Int64, value.toInt = number) ↔
    Int64.minValue.toInt ≤ number ∧ number ≤ Int64.maxValue.toInt := by
  constructor
  · rintro ⟨value, rfl⟩
    exact ⟨value.minValue_le_toInt, value.toInt_le⟩
  · rintro ⟨low, high⟩
    exact ⟨Int64.ofInt number, Int64.toInt_ofInt_of_le low (Int.lt_of_le_sub_one high)⟩

theorem ofJson_eq_ok_iff {json : Json} {value : Value} :
    ofJson json = .ok value ↔ Denoted json value := by
  cases json with
  | int number =>
      by_cases fits : Int64.minValue.toInt ≤ number ∧ number ≤ Int64.maxValue.toInt
      · obtain ⟨exact, rfl⟩ := exists_toInt_eq_iff.mpr fits
        rw [ofJson, if_pos fits, Int64.ofInt_toInt, Except.ok.injEq]
        constructor
        · rintro rfl
          exact .whole rfl
        · rintro (_ | _ | same | apart | _ | _)
          · rw [Int64.toInt_inj.mp same]
          · exact absurd rfl (apart exact)
      · have apart : ∀ value : Int64, value.toInt ≠ number := fun value same =>
          fits (exists_toInt_eq_iff.mp ⟨value, same⟩)
        have nonzero : number.natAbs ≠ 0 := fun zero =>
          apart 0 (Int.natAbs_eq_zero.mp zero).symm
        rw [ofJson, if_neg fits, Except.ok.injEq]
        constructor
        · rintro rfl
          exact .beyond apart (Binary64.ofNat_nearest nonzero _)
        · rintro (_ | _ | same | ⟨_, nearest⟩ | _ | _)
          · exact absurd same (apart _)
          · rw [(Binary64.nearest_iff nonzero).mp nearest]
  | array items =>
      simp only [ofJson, reduceCtorEq, false_iff]
      rintro ⟨⟩
  | object members =>
      simp only [ofJson, reduceCtorEq, false_iff]
      rintro ⟨⟩
  | _ =>
      simp only [ofJson, Except.ok.injEq]
      constructor
      · rintro rfl
        constructor
      · rintro ⟨⟩
        rfl

theorem listOfJson_eq_ok_iff {items : List Json} {values : List Value} :
    listOfJson items = .ok values ↔ List.Forall₂ Denoted items values := by
  induction items generalizing values with
  | nil => simp [listOfJson, eq_comm]
  | cons first rest ih =>
      rw [listOfJson, both_eq_ok_iff, List.forall₂_cons_left_iff]
      simp only [ofJson_eq_ok_iff, ih]
      constructor
      · rintro ⟨value, others, here, following, rfl⟩
        exact ⟨value, others, here, following, rfl⟩
      · rintro ⟨value, others, here, following, rfl⟩
        exact ⟨value, others, here, following, rfl⟩

theorem listOfJson_eq_error_iff {items : List Json} {error : Error} :
    listOfJson items = .error error ↔ Earliest Refused items error := by
  induction items with
  | nil => simp [listOfJson, not_earliest_nil]
  | cons first rest ih =>
      have sound : (∃ value, ofJson first = .ok value) ↔ ¬∃ cause, Refused first cause := by
        rw [ok_iff_not_error]
        simp only [ofJson_eq_error_iff]
      rw [listOfJson, both_eq_error_iff, earliest_cons_iff, ofJson_eq_error_iff, sound, ih]

end Value

namespace Operand

/-- An array means the list of what its items mean, and anything else a scalar. -/
inductive Denoted : Json → Operand → Prop
  | scalar {json : Json} {value : Value} : Value.Denoted json value → Denoted json (.scalar value)
  | list {items : List Json} {values : List Value} :
      List.Forall₂ Value.Denoted items values → Denoted (.array items) (.list values)

theorem ofJson_eq_ok_iff {json : Json} {operand : Operand} :
    ofJson json = .ok operand ↔ Denoted json operand := by
  cases json with
  | array items =>
      simp only [ofJson, map_eq_ok_iff, Value.listOfJson_eq_ok_iff]
      constructor
      · rintro ⟨values, denoted, rfl⟩
        exact .list denoted
      · rintro (⟨⟨⟩⟩ | denoted)
        exact ⟨_, denoted, rfl⟩
  | _ =>
      simp only [ofJson, map_eq_ok_iff, Value.ofJson_eq_ok_iff]
      constructor
      · rintro ⟨value, denoted, rfl⟩
        exact .scalar denoted
      · rintro ⟨denoted⟩
        exact ⟨_, denoted, rfl⟩

inductive Written : Json → Prop
  | scalar {json : Json} : json.IsScalar → Written json
  | list {items : List Json} : (∀ item ∈ items, item.IsScalar) → Written (.array items)

inductive Refused : Json → Error → Prop
  | object (members : List (String × Json)) :
      Refused (.object members) (.notScalar (.object members))
  | item {items : List Json} {error : Error} :
      Earliest Value.Refused items error → Refused (.array items) error

theorem ofJson_eq_error_iff {json : Json} {error : Error} :
    ofJson json = .error error ↔ Refused json error := by
  cases json with
  | array items =>
      rw [ofJson, map_eq_error_iff, Value.listOfJson_eq_error_iff]
      exact ⟨.item, fun | .item earliest => earliest⟩
  | object members =>
      simp only [ofJson, map_eq_error_iff, Value.ofJson_eq_error_iff, Value.Refused, Json.IsScalar]
      constructor
      · rintro ⟨_, rfl⟩
        exact .object members
      · rintro ⟨⟩
        simp
  | _ =>
      simp only [ofJson, map_eq_error_iff, Value.ofJson_eq_error_iff, Value.Refused, Json.IsScalar,
        not_true_eq_false, false_and, false_iff]
      rintro ⟨⟩

theorem exists_refused_iff {json : Json} : (∃ error, Refused json error) ↔ ¬Written json := by
  cases json with
  | array items =>
      have refused : (∃ error, Refused (.array items) error) ↔
          ∃ error, Earliest Value.Refused items error :=
        exists_congr fun error => ⟨fun | .item earliest => earliest, .item⟩
      have written : Written (.array items) ↔ ∀ item ∈ items, item.IsScalar :=
        ⟨fun | .list scalars => scalars, .list⟩
      rw [refused, written, exists_earliest_iff]
      simp [Value.exists_refused_iff]
  | object members =>
      refine iff_of_true ⟨_, .object members⟩ ?_
      rintro (scalar | _)
      exact scalar
  | _ =>
      refine iff_of_false ?_ (not_not.mpr (.scalar trivial))
      rintro ⟨error, ⟨⟩⟩

theorem exists_denoted_iff {json : Json} : (∃ operand, Denoted json operand) ↔ Written json := by
  simp only [← ofJson_eq_ok_iff]
  rw [ok_iff_not_error]
  simp only [ofJson_eq_error_iff, exists_refused_iff, not_not]

end Operand

namespace Predicate

mutual

def entriesOf (key : String) (json : Json) : List (String × Json) :=
  match json with
  | .object members =>
      (key, .object members) :: if (groupKey? key).isSome then entries members else []
  | found => [(key, found)]

def entries : List (String × Json) → List (String × Json)
  | [] => []
  | (key, json) :: rest => entriesOf key json ++ entries rest

end

/-- What is wrong with an entry. A refused operand comes before a fault of the key. -/
inductive EntryFault : String × Json → Error → Prop
  | groupNotObject {key : String} {json : Json} (connective : Connective) :
      KeyHolds key connective.sql.toList → (∀ members, json ≠ .object members) →
      EntryFault (key, json) (.groupNotObject key json)
  | operand {key : String} {json : Json} {error : Error} :
      (∀ connective : Connective, ¬KeyHolds key connective.sql.toList) →
      Operand.Refused json error → EntryFault (key, json) error
  | key {key : String} {json : Json} {operand : Operand} {error : Error} :
      (∀ connective : Connective, ¬KeyHolds key connective.sql.toList) →
      Operand.Denoted json operand → ofKey key operand = .error error →
      EntryFault (key, json) error

/-- A group in an object, or an operand under a key that is read with any operand. -/
inductive Accepted : String × Json → Prop
  | group {key : String} (connective : Connective) (members : List (String × Json)) :
      KeyHolds key connective.sql.toList → Accepted (key, .object members)
  | condition {key : String} {json : Json} :
      (∀ operand, ∃ predicate, ofKey key operand = .ok predicate) → Operand.Written json →
      Accepted (key, json)

section Entry

variable {key : String} {json : Json} {connective : Connective} {error : Error}

theorem entryFault_iff_of_group (group : groupKey? key = some connective) :
    EntryFault (key, json) error ↔
      (∀ members, json ≠ .object members) ∧ error = .groupNotObject key json := by
  have holds := groupKey?_eq_some_iff.mp group
  constructor
  · intro fault
    cases fault with
    | groupNotObject _ _ noObject => exact ⟨noObject, rfl⟩
    | operand free _ => exact absurd holds (free connective)
    | key free _ _ => exact absurd holds (free connective)
  · rintro ⟨noObject, rfl⟩
    exact .groupNotObject connective holds noObject

theorem entryFault_iff_of_column (column : groupKey? key = none) :
    EntryFault (key, json) error ↔ Operand.Refused json error ∨
      ∃ operand, Operand.Denoted json operand ∧ ofKey key operand = .error error := by
  have free := groupKey?_eq_none_iff.mp column
  constructor
  · intro fault
    cases fault with
    | groupNotObject connective holds _ => exact absurd holds (free connective)
    | operand _ refused => exact .inl refused
    | key _ given failed => exact .inr ⟨_, given, failed⟩
  · rintro (refused | ⟨operand, given, failed⟩)
    · exact .operand free refused
    · exact .key free given failed

theorem accepted_iff_of_group (group : groupKey? key = some connective) :
    Accepted (key, json) ↔ ∃ members, json = .object members := by
  constructor
  · rintro (⟨_, members, _⟩ | ⟨reads, _⟩)
    · exact ⟨members, rfl⟩
    · obtain ⟨predicate, read⟩ := reads (.list [])
      simp [groupKey?_of_ofKey read] at group
  · rintro ⟨members, rfl⟩
    exact .group connective members (groupKey?_eq_some_iff.mp group)

theorem accepted_iff_of_column (column : groupKey? key = none) :
    Accepted (key, json) ↔
      Operand.Written json ∧ ∀ operand, ∃ predicate, ofKey key operand = .ok predicate := by
  constructor
  · rintro (⟨connective, _, holds⟩ | ⟨reads, written⟩)
    · exact absurd holds (groupKey?_eq_none_iff.mp column connective)
    · exact ⟨written, reads⟩
  · rintro ⟨written, reads⟩
    exact .condition reads written

theorem accepted_iff {entry : String × Json} :
    Accepted entry ↔ ¬∃ error, EntryFault entry error := by
  obtain ⟨key, json⟩ := entry
  cases group : groupKey? key with
  | some connective => simp [accepted_iff_of_group group, entryFault_iff_of_group group]
  | none =>
      simp only [accepted_iff_of_column group, entryFault_iff_of_column group, exists_or, not_or,
        Operand.exists_refused_iff, not_not]
      refine and_congr_right fun written => ?_
      constructor
      · rintro reads ⟨error, operand, _, failed⟩
        obtain ⟨predicate, read⟩ := reads operand
        simp [failed] at read
      · intro sound
        -- The key is tried with the one operand that the entry has; any other fares alike.
        obtain ⟨operand, given⟩ := Operand.exists_denoted_iff.mpr written
        cases read : ofKey key operand with
        | error error => exact absurd ⟨error, operand, given, read⟩ sound
        | ok predicate => exact exists_ofKey_of_ok read

theorem entriesOf_of_column (json : Json) (column : groupKey? key = none) :
    entriesOf key json = [(key, json)] := by
  cases json <;> simp [entriesOf, column]

theorem entriesOf_of_group (members : List (String × Json))
    (group : groupKey? key = some connective) :
    entriesOf key (.object members) = (key, .object members) :: entries members := by
  simp [entriesOf, group]

theorem entriesOf_of_not_object (noObject : ∀ members, json ≠ .object members) :
    entriesOf key json = [(key, json)] := by
  cases json with
  | object members => exact absurd rfl (noObject members)
  | _ => simp [entriesOf]

theorem ofMember_of_not_object (group : groupKey? key = some connective)
    (noObject : ∀ members, json ≠ .object members) :
    ofMember key json = .error (.groupNotObject key json) := by
  unfold ofMember
  rw [← groupKey?, group]
  cases json with
  | object members => exact absurd rfl (noObject members)
  | _ => rfl

theorem ofMember_error_iff_of_column (column : groupKey? key = none) :
    ofMember key json = .error error ↔ EntryFault (key, json) error := by
  rw [ofMember_of_ofTag?_none json column, bind_eq_error_iff, entryFault_iff_of_column column]
  simp only [Operand.ofJson_eq_error_iff, Operand.ofJson_eq_ok_iff]

theorem ofMember_error_iff_of_not_object (noObject : ∀ members, json ≠ .object members) :
    ofMember key json = .error error ↔ Earliest EntryFault (entriesOf key json) error := by
  rw [entriesOf_of_not_object noObject, earliest_singleton_iff]
  cases group : groupKey? key with
  | none => exact ofMember_error_iff_of_column group
  | some connective =>
      rw [ofMember_of_not_object group noObject, entryFault_iff_of_group group]
      simp [noObject, eq_comm]

end Entry

mutual

-- Only an object has entries of its own, so any other value is settled without the induction.
theorem ofMember_error_iff : ∀ (key : String) (json : Json) (error : Error),
    ofMember key json = .error error ↔ Earliest EntryFault (entriesOf key json) error
  | key, .object members, error => by
      cases group : groupKey? key with
      | none =>
          rw [entriesOf_of_column _ group, earliest_singleton_iff]
          exact ofMember_error_iff_of_column group
      | some connective =>
          have sound (cause : Error) : ¬EntryFault (key, .object members) cause := by
            simp [entryFault_iff_of_group group]
          rw [ofMember_of_ofTag?_some members group, entriesOf_of_group members group,
            earliest_cons_iff, map_eq_error_iff, ofMembers_error_iff members error]
          simp [sound]
  | _, .null, _ => ofMember_error_iff_of_not_object (by simp)
  | _, .bool _, _ => ofMember_error_iff_of_not_object (by simp)
  | _, .int _, _ => ofMember_error_iff_of_not_object (by simp)
  | _, .double _, _ => ofMember_error_iff_of_not_object (by simp)
  | _, .text _, _ => ofMember_error_iff_of_not_object (by simp)
  | _, .array _, _ => ofMember_error_iff_of_not_object (by simp)

theorem ofMembers_error_iff : ∀ (members : List (String × Json)) (error : Error),
    ofMembers members = .error error ↔ Earliest EntryFault (entries members) error
  | [], error => by simp [ofMembers, entries, not_earliest_nil]
  | (key, json) :: rest, error => by
      have sound : (∃ predicate, ofMember key json = .ok predicate) ↔
          ¬∃ cause, Earliest EntryFault (entriesOf key json) cause := by
        rw [ok_iff_not_error]
        simp only [ofMember_error_iff key json]
      rw [ofMembers, entries, both_eq_error_iff, earliest_append_iff, sound,
        ofMember_error_iff key json, ofMembers_error_iff rest error]

end

theorem category_of_earliest {items : List (String × Json)} {error : Error}
    (earliest : Earliest EntryFault items error) : error.category = .malformedPredicate := by
  obtain ⟨_, _, _, _, _, fault⟩ := earliest
  cases fault with
  | groupNotObject _ _ _ => rfl
  | operand _ refused =>
      cases refused with
      | object _ => rfl
      | item earliest =>
          obtain ⟨_, _, _, _, _, _, rfl⟩ := earliest
          rfl
  | key _ _ failed => exact category_of_ofKey failed

end Predicate

end BoundSql
