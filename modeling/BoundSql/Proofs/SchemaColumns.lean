import BoundSql.Json
import BoundSql.Proofs.DescriptorFields
import Mathlib.Data.List.Forall2

/-! Schema documents. A schema is accepted if its identity is a text and every column is a type's
tag or an object of descriptor fields. Its columns stand in the order of the document, and of
several faults the first one counts. -/

namespace BoundSql

open Descriptor (Holds UnknownTag)

namespace Descriptor

inductive Denoted : Json → Descriptor → Prop
  | tag (columnType : ColumnType) : Denoted (.text columnType.tag) { base := .atomic columnType }
  | fields {members : List (String × Json)} {descriptor : Descriptor} :
      Written (fun name => Keyed.find? name members) descriptor →
      Denoted (.object members) descriptor

inductive Acceptable : Json → Prop
  | tag (columnType : ColumnType) : Acceptable (.text columnType.tag)
  | fields {members : List (String × Json)} :
      Accepted (fun name => Keyed.find? name members) → Acceptable (.object members)

inductive Fault : Json → Error → Prop
  | tag {tag : String} : UnknownTag tag → Fault (.text tag) (.unknownTypeTag tag)
  | fields {members : List (String × Json)} {error : Error} :
      FieldFault (fun name => Keyed.find? name members) error → Fault (.object members) error
  | shape {json : Json} : (∀ tag, json ≠ .text tag) → (∀ members, json ≠ .object members) →
      Fault json .descriptorShape

variable {json : Json}

theorem ofJson_eq_ok_iff (settled : json.Settled) {descriptor : Descriptor} :
    ofJson json = .ok descriptor ↔ Denoted json descriptor := by
  cases json with
  | text tag =>
      rw [ofJson, bind_eq_ok_iff]
      simp only [read_eq_ok_iff]
      constructor
      · rintro ⟨columnType, rfl, same⟩
        cases same
        exact .tag columnType
      · rintro ⟨columnType⟩
        exact ⟨columnType, rfl, rfl⟩
  | object members =>
      have unique := (Json.settled_object_iff.mp settled).1
      rw [ofJson, ofMembers_of_nodup unique, ofFound_eq_ok_iff]
      constructor
      · exact .fields
      · rintro ⟨⟩
        assumption
  | _ =>
      simp only [ofJson, reduceCtorEq, false_iff]
      rintro ⟨⟩

theorem ofJson_eq_error_iff (settled : json.Settled) {error : Error} :
    ofJson json = .error error ↔ Fault json error := by
  cases json with
  | text tag =>
      have read : ofJson (.text tag) = .error error ↔ ColumnType.read tag = .error error := by
        rw [ofJson]
        cases ColumnType.read tag <;> simp [bind, Except.bind, pure, Except.pure]
      rw [read, read_eq_error_iff]
      constructor
      · rintro ⟨unknown, rfl⟩
        exact .tag unknown
      · intro fault
        cases fault with
        | tag unknown => exact ⟨unknown, rfl⟩
        | shape noTag _ => exact absurd rfl (noTag tag)
  | object members =>
      have unique := (Json.settled_object_iff.mp settled).1
      rw [ofJson, ofMembers_of_nodup unique, ofFound_eq_error_iff]
      constructor
      · exact .fields
      · intro fault
        cases fault with
        | fields found => exact found
        | shape _ noObject => exact absurd rfl (noObject members)
  | _ =>
      change Except.error Error.descriptorShape = .error error ↔ _
      rw [Except.error.injEq]
      constructor
      · rintro rfl
        exact .shape nofun nofun
      · rintro ⟨⟩
        rfl

theorem exists_fault_iff : (∃ error, Fault json error) ↔ ¬Acceptable json := by
  constructor
  · rintro ⟨error, fault⟩ acceptable
    cases acceptable with
    | tag columnType =>
        cases fault with
        | tag unknown => exact unknown columnType rfl
        | shape noTag _ => exact noTag columnType.tag rfl
    | fields accepted =>
        cases fault with
        | fields found => exact exists_fieldFault_iff.mp ⟨error, found⟩ accepted
        | @shape _ _ noObject => exact noObject _ rfl
  · intro refused
    cases json with
    | text tag =>
        refine ⟨_, .tag ?_⟩
        rintro columnType rfl
        exact refused (.tag columnType)
    | object members =>
        have notAccepted : ¬Accepted fun name => Keyed.find? name members := fun accepted =>
          refused (.fields accepted)
        obtain ⟨error, fault⟩ := exists_fieldFault_iff.mpr notAccepted
        exact ⟨error, .fields fault⟩
    | _ => exact ⟨_, .shape nofun nofun⟩

theorem Fault.category {error : Error} (fault : Fault json error) :
    (∃ tag, error = .unknownTypeTag tag) ∧ error.category = .unknownType ∨
      (∀ tag, error ≠ .unknownTypeTag tag) ∧ error.category = .serialization := by
  cases fault with
  | tag _ => exact .inl ⟨⟨_, rfl⟩, rfl⟩
  | shape _ _ => exact .inr ⟨nofun, rfl⟩
  | fields fault =>
      cases fault with
      | shape _ => exact .inr ⟨nofun, rfl⟩
      | base _ _ => exact .inr ⟨nofun, rfl⟩
      | tag tag _ _ _ _ => exact .inl ⟨⟨tag, rfl⟩, rfl⟩

end Descriptor

namespace Schema

structure ColumnOf (entry : String × Json) (column : String × Descriptor) : Prop where
  name : column.1 = entry.1
  denoted : Descriptor.Denoted entry.2 column.2

structure Written (members : List (String × Json)) (schema : Schema) : Prop where
  identity : Holds .text (Keyed.find? "identity" members) schema.explicitIdentity
  columns : ∃ entries, Keyed.find? "columns" members = some (.object entries) ∧
    List.Forall₂ ColumnOf entries schema.columns

structure Accepted (members : List (String × Json)) : Prop where
  identity : ∃ identity, Holds .text (Keyed.find? "identity" members) identity
  columns : ∃ entries, Keyed.find? "columns" members = some (.object entries) ∧
    ∀ entry ∈ entries, Descriptor.Acceptable entry.2

/-- The first of the causes for which a schema may be refused. -/
inductive Refused : Json → Error → Prop
  | notObject {json : Json} : (∀ members, json ≠ .object members) →
      Refused json (.schemaNotObject json)
  | identity {members : List (String × Json)} {found : Json} :
      Keyed.find? "identity" members = some found → found ≠ .null →
      (∀ name, found ≠ .text name) → Refused (.object members) (.identityNotText found)
  | noColumns {members : List (String × Json)} {identity : Option String} :
      Holds .text (Keyed.find? "identity" members) identity →
      (∀ entries, Keyed.find? "columns" members ≠ some (.object entries)) →
      Refused (.object members) .noColumnsObject
  | column {members entries : List (String × Json)} {identity : Option String} {error : Error} :
      Holds .text (Keyed.find? "identity" members) identity →
      Keyed.find? "columns" members = some (.object entries) →
      Earliest (fun entry => Descriptor.Fault entry.2) entries error →
      Refused (.object members) error

section Columns

variable {entries : List (String × Json)} (settled : ∀ entry ∈ entries, entry.2.Settled)
include settled

theorem columnsOfMembers_eq_ok_iff {columns : List (String × Descriptor)} :
    columnsOfMembers entries = .ok columns ↔ List.Forall₂ ColumnOf entries columns := by
  induction entries generalizing columns with
  | nil => simp [columnsOfMembers, eq_comm]
  | cons entry rest ih =>
      obtain ⟨name, json⟩ := entry
      rw [List.forall_mem_cons] at settled
      rw [columnsOfMembers, both_eq_ok_iff, List.forall₂_cons_left_iff]
      simp only [Descriptor.ofJson_eq_ok_iff settled.1, ih settled.2]
      constructor
      · rintro ⟨descriptor, others, denoted, following, rfl⟩
        exact ⟨_, others, ⟨rfl, denoted⟩, following, rfl⟩
      · rintro ⟨⟨_, descriptor⟩, others, ⟨rfl, denoted⟩, following, rfl⟩
        exact ⟨descriptor, others, denoted, following, rfl⟩

theorem columnsOfMembers_eq_error_iff {error : Error} :
    columnsOfMembers entries = .error error ↔
      Earliest (fun entry => Descriptor.Fault entry.2) entries error := by
  induction entries with
  | nil => simp [columnsOfMembers, not_earliest_nil]
  | cons entry rest ih =>
      obtain ⟨name, json⟩ := entry
      rw [List.forall_mem_cons] at settled
      have sound : (∃ descriptor, Descriptor.ofJson json = .ok descriptor) ↔
          ¬∃ cause, Descriptor.Fault json cause := by
        rw [ok_iff_not_error]
        simp only [Descriptor.ofJson_eq_error_iff settled.1]
      rw [columnsOfMembers, both_eq_error_iff, earliest_cons_iff,
        Descriptor.ofJson_eq_error_iff settled.1, sound, ih settled.2]

end Columns

section Members

variable {members : List (String × Json)} {error : Error}

theorem identityMember_eq_ok_iff {identity : Option String} :
    identityMember members = .ok identity ↔
      Holds .text (Keyed.find? "identity" members) identity := by
  cases found : Keyed.find? "identity" members with
  | none => cases identity <;> simp [identityMember, found, Holds]
  | some json => cases json <;> cases identity <;> simp [identityMember, found, Holds]

theorem identityMember_eq_error_iff :
    identityMember members = .error error ↔
      ∃ found, Keyed.find? "identity" members = some found ∧ found ≠ .null ∧
        (∀ name, found ≠ .text name) ∧ error = .identityNotText found := by
  cases found : Keyed.find? "identity" members with
  | none => simp [identityMember, found]
  | some json => cases json <;> simp [identityMember, found, eq_comm]

theorem columnMembers_eq_ok_iff {entries : List (String × Json)} :
    columnMembers members = .ok entries ↔
      Keyed.find? "columns" members = some (.object entries) := by
  cases found : Keyed.find? "columns" members with
  | none => simp [columnMembers, found]
  | some json => cases json <;> simp [columnMembers, found]

theorem columnMembers_eq_error_iff :
    columnMembers members = .error error ↔
      (∀ entries, Keyed.find? "columns" members ≠ some (.object entries)) ∧
        error = .noColumnsObject := by
  cases found : Keyed.find? "columns" members with
  | none => simp [columnMembers, found, eq_comm]
  | some json => cases json <;> simp [columnMembers, found, eq_comm]

variable (settled : (Json.object members).Settled)
include settled

theorem settled_of_columns {entries : List (String × Json)}
    (found : Keyed.find? "columns" members = some (.object entries)) :
    ∀ entry ∈ entries, entry.2.Settled :=
  (Json.settled_object_iff.mp (settled.find? found)).2

theorem ofJson_object_eq_ok_iff {schema : Schema} :
    ofJson (.object members) = .ok schema ↔ Written members schema := by
  simp only [ofJson, bind_eq_ok_iff, identityMember_eq_ok_iff, columnMembers_eq_ok_iff]
  constructor
  · rintro ⟨identity, named, entries, found, columns, read, same⟩
    cases same
    have inside := settled_of_columns settled found
    exact ⟨named, entries, found, (columnsOfMembers_eq_ok_iff inside).mp read⟩
  · rintro ⟨named, entries, found, columns⟩
    have inside := settled_of_columns settled found
    exact ⟨_, named, entries, found, _, (columnsOfMembers_eq_ok_iff inside).mpr columns, rfl⟩

theorem ofJson_object_eq_error_iff :
    ofJson (.object members) = .error error ↔ Refused (.object members) error := by
  simp only [ofJson, bind_eq_error_iff, identityMember_eq_ok_iff, identityMember_eq_error_iff,
    columnMembers_eq_ok_iff, columnMembers_eq_error_iff]
  constructor
  · rintro (⟨found, given, notNull, notText, rfl⟩ | ⟨identity, named, ⟨missing, rfl⟩ |
      ⟨entries, found, failed | ⟨columns, _, failed⟩⟩⟩)
    · exact .identity given notNull notText
    · exact .noColumns named missing
    · have inside := settled_of_columns settled found
      exact .column named found ((columnsOfMembers_eq_error_iff inside).mp failed)
    · cases failed
  · intro refused
    cases refused with
    | notObject noObject => exact absurd rfl (noObject members)
    | identity given notNull notText => exact .inl ⟨_, given, notNull, notText, rfl⟩
    | noColumns named missing => exact .inr ⟨_, named, .inl ⟨missing, rfl⟩⟩
    | column named found earliest =>
        have inside := settled_of_columns settled found
        exact .inr ⟨_, named, .inr ⟨_, found,
          .inl ((columnsOfMembers_eq_error_iff inside).mpr earliest)⟩⟩

end Members

theorem ofJson_of_not_object {json : Json} (noObject : ∀ members, json ≠ .object members) :
    ofJson json = .error (.schemaNotObject json) := by
  cases json with
  | object members => exact absurd rfl (noObject members)
  | _ => rfl

theorem exists_refused_iff {members : List (String × Json)} :
    (∃ error, Refused (.object members) error) ↔ ¬Accepted members := by
  constructor
  · rintro ⟨error, refused⟩ ⟨⟨identity, named⟩, entries, found, columns⟩
    cases refused with
    | notObject noObject => exact noObject members rfl
    | identity given notNull notText =>
        cases identity with
        | none =>
            rcases named with missing | null
            · simp [missing] at given
            · rw [null, Option.some.injEq] at given
              exact notNull given.symm
        | some name =>
            have same := named.symm.trans given
            exact notText name (Option.some.inj same).symm
    | noColumns _ missing => exact missing entries found
    | @column _ others _ _ _ given earliest =>
        obtain rfl : entries = others := by simpa [found] using given
        obtain ⟨entry, member, faulty⟩ := exists_earliest_iff.mp ⟨error, earliest⟩
        exact Descriptor.exists_fault_iff.mp faulty (columns entry member)
  · intro refused
    cases outcome : identityMember members with
    | error error =>
        obtain ⟨found, given, notNull, notText, rfl⟩ := identityMember_eq_error_iff.mp outcome
        exact ⟨_, .identity given notNull notText⟩
    | ok identity =>
        have named := identityMember_eq_ok_iff.mp outcome
        cases outcome : columnMembers members with
        | error error =>
            obtain ⟨missing, rfl⟩ := columnMembers_eq_error_iff.mp outcome
            exact ⟨_, .noColumns named missing⟩
        | ok entries =>
            have found := columnMembers_eq_ok_iff.mp outcome
            by_cases acceptable : ∀ entry ∈ entries, Descriptor.Acceptable entry.2
            · exact absurd ⟨⟨identity, named⟩, entries, found, acceptable⟩ refused
            · have faulty : ∃ entry ∈ entries, ∃ error, Descriptor.Fault entry.2 error := by
                simpa [Descriptor.exists_fault_iff] using acceptable
              obtain ⟨error, earliest⟩ := exists_earliest_iff.mpr faulty
              exact ⟨error, .column named found earliest⟩

theorem Refused.category {json : Json} {error : Error} (refused : Refused json error) :
    (∃ tag, error = .unknownTypeTag tag) ∧ error.category = .unknownType ∨
      (∀ tag, error ≠ .unknownTypeTag tag) ∧ error.category = .serialization := by
  cases refused with
  | notObject _ => exact .inr ⟨nofun, rfl⟩
  | identity _ _ _ => exact .inr ⟨nofun, rfl⟩
  | noColumns _ _ => exact .inr ⟨nofun, rfl⟩
  | column _ _ earliest =>
      obtain ⟨_, _, _, _, _, fault⟩ := earliest
      exact fault.category

/-- Which values are schemas, of which schemas, and with what errors all others are refused. -/
theorem ofJson_reads_exactly {json : Json} (settled : json.Settled) :
    ((∃ schema, ofJson json = .ok schema) ↔
      ∃ members, json = .object members ∧ Accepted members) ∧
    (∀ schema, ofJson json = .ok schema ↔
      ∃ members, json = .object members ∧ Written members schema) ∧
    (∀ error, ofJson json = .error error ↔ Refused json error) ∧
    ∀ error, ofJson json = .error error →
      (∃ tag, error = .unknownTypeTag tag) ∧ error.category = .unknownType ∨
        (∀ tag, error ≠ .unknownTypeTag tag) ∧ error.category = .serialization := by
  have refuses (error : Error) : ofJson json = .error error ↔ Refused json error := by
    by_cases object : ∃ members, json = .object members
    · obtain ⟨members, rfl⟩ := object
      exact ofJson_object_eq_error_iff settled
    · rw [not_exists] at object
      rw [ofJson_of_not_object object, Except.error.injEq]
      constructor
      · rintro rfl
        exact .notObject object
      · intro refused
        cases refused with
        | notObject _ => rfl
        | identity _ _ _ | noColumns _ _ | column _ _ _ => exact absurd rfl (object _)
  refine ⟨?accepted, ?written, refuses, fun error failed => ((refuses error).mp failed).category⟩
  case accepted =>
    rw [ok_iff_not_error]
    simp only [refuses]
    constructor
    · intro sound
      by_cases object : ∃ members, json = .object members
      · obtain ⟨members, rfl⟩ := object
        rw [exists_refused_iff, not_not] at sound
        exact ⟨members, rfl, sound⟩
      · exact absurd ⟨_, .notObject (not_exists.mp object)⟩ sound
    · rintro ⟨members, rfl, accepted⟩
      rw [exists_refused_iff, not_not]
      exact accepted
  case written =>
    intro schema
    constructor
    · intro read
      by_cases object : ∃ members, json = .object members
      · obtain ⟨members, rfl⟩ := object
        exact ⟨members, rfl, (ofJson_object_eq_ok_iff settled).mp read⟩
      · rw [ofJson_of_not_object (not_exists.mp object)] at read
        cases read
    · rintro ⟨members, rfl, written⟩
      exact (ofJson_object_eq_ok_iff settled).mpr written

def guideMembers : List (String × Json) :=
  [("columns", .object [
      ("id", .object [("type", .text "int"), ("primary", .bool true), ("note", .int 1)]),
      ("name", .text "string"),
      ("owner", .object [("references", .text "user"), ("type", .null), ("null", .bool false),
        ("default", .text "me")])]),
    ("identity", .null)]

def guide : Schema where
  columns := [("id", { base := .atomic .int, primary := true }),
    ("name", { base := .atomic .string }),
    ("owner", { base := .reference "user", nullable := some false, defaultText := some "me" })]

def faultyGuide : Json :=
  .object [("columns", .object [("id", .text "int"),
    ("name", .object [("type", .text "blob"), ("auto", .null)]), ("owner", .text "blob")])]

theorem ofJson_reads_exactly_guide :
    Written guideMembers guide ∧ Refused faultyGuide .descriptorShape := by
  have settledGuide : (Json.object guideMembers).Settled := by
    simp [guideMembers, Json.Settled, Json.SettledMembers, Keyed.keys]
  have settledFaulty : faultyGuide.Settled := by
    simp [faultyGuide, Json.Settled, Json.SettledMembers, Keyed.keys]
  obtain ⟨_, writes, _, _⟩ := ofJson_reads_exactly settledGuide
  obtain ⟨_, _, refuses, _⟩ := ofJson_reads_exactly settledFaulty
  obtain ⟨members, same, written⟩ := (writes guide).mp rfl
  cases same
  exact ⟨written, (refuses .descriptorShape).mp rfl⟩

end Schema

end BoundSql
