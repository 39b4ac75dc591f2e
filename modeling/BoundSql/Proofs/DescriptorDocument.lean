import BoundSql.Proofs.ClosingPosition
import BoundSql.Proofs.LastValue
import BoundSql.Proofs.SchemaColumns
import BoundSql.Proofs.SettledDocument

/-! Descriptors as documents of their own and as columns of a schema. Only the former sees that a
known member is repeated; on every other document the two agree, and differ in how they report an
error. -/

namespace BoundSql

open Text (ClosesWith)

namespace Json

theorem text?_settle (json : Json) : json.settle.text? = json.text? := by
  cases json <;> rfl

theorem bool?_settle (json : Json) : json.settle.bool? = json.bool? := by
  cases json <;> rfl

end Json

namespace Descriptor

def columnOfDocument (name document : String) : Except Error Schema := do
  let json ← Error.ifNone .malformedDocument (Json.read? document)
  Schema.ofJson (.object [("columns", .object [(name, json)])])

/-- The text by which a document of its own reports an error of the column. A text that closes with
a position keeps it in plain decimals, or loses it if its line is zero. -/
inductive Retold : Error → String → Prop
  | shape : Retold .descriptorShape (Error.detail .descriptorShape)
  | base : Retold .descriptorBase (Error.message .descriptorBase)
  | unplaced (tag : String) :
      (∀ body position, ¬ClosesWith (Error.message (.unknownTypeTag tag)) body position) →
      Retold (.unknownTypeTag tag) (Error.message (.unknownTypeTag tag))
  | dropped (tag body : String) (column : Nat) :
      ClosesWith (Error.message (.unknownTypeTag tag)) body ⟨0, column⟩ →
      Retold (.unknownTypeTag tag) body
  | placed (tag body : String) (line column : Nat) : line ≠ 0 →
      ClosesWith (Error.message (.unknownTypeTag tag)) body ⟨line, column⟩ →
      Retold (.unknownTypeTag tag)
        (body ++ " at line " ++ toString line ++ " column " ++ toString column)

structure Agree (name : String) (alone : Except Error Descriptor) (column : Except Error Schema) :
    Prop where
  accepted : (∃ descriptor, alone = .ok descriptor) ↔ ∃ schema, column = .ok schema
  alike : ∀ descriptor, alone = .ok descriptor ↔ column = .ok { columns := [(name, descriptor)] }
  reported : ∀ error, column = .error error →
    (error.category = .unknownType ∨ error.category = .serialization) ∧
      ∃ report, alone = .error report ∧ report.category = .serialization ∧
        Retold error report.detail

section Found

variable {found other : String → Option Json}

theorem optionalContent_settle {α : Type} {content? : Json → Option α}
    (same : ∀ json, content? json.settle = content? json) (found : Option Json) :
    optionalContent content? (found.map Json.settle) = optionalContent content? found := by
  cases found with
  | none => rfl
  | some json =>
      have content := same json
      cases json <;> simp_all [optionalContent, Json.settle]

theorem flagContent_settle (found : Option Json) :
    flagContent (found.map Json.settle) = flagContent found := by
  cases found with
  | none => rfl
  | some json => simp [flagContent, Json.bool?_settle]

theorem ofFound_settle (found : String → Option Json) :
    (ofFound fun name => (found name).map Json.settle) = ofFound found := by
  simp only [ofFound, optionalContent_settle Json.text?_settle,
    optionalContent_settle Json.bool?_settle, flagContent_settle]

theorem ofFound_congr (same : ∀ name ∈ knownMembers, found name = other name) :
    ofFound found = ofFound other := by
  simp only [knownMembers, List.forall_mem_cons] at same
  obtain ⟨tag, entity, primary, auto, nullable, text, _⟩ := same
  simp only [ofFound, tag, entity, primary, auto, nullable, text]

end Found

theorem ofJson_settle_object (members : List (String × Json)) :
    ofJson (Json.object members).settle = ofFound fun name => Keyed.last? name members := by
  have unique : (Keyed.keys (Json.settledMembers members)).Nodup := Keyed.keys_ofList_nodup _
  calc ofJson (Json.object members).settle
      = ofMembers (Json.settledMembers members) := by rw [Json.settle, ofJson]
    _ = ofFound fun name => (Keyed.last? name members).map Json.settle := by
      simp only [ofMembers_of_nodup unique, Json.find?_settled]
    _ = ofFound fun name => Keyed.last? name members := ofFound_settle _

theorem ofJson_settle {raw : Json}
    (distinct : ∀ members, raw = .object members → ¬Repeats members) :
    ofJson raw.settle = ofJson raw := by
  cases raw with
  | object members =>
      have once : ¬Repeats members := distinct members rfl
      rw [ofJson_settle_object, ofJson, ofMembers, if_neg (mt repeatsMember_iff.mp once)]
      apply ofFound_congr
      intro name known
      apply Keyed.last?_of_count_le_one
      exact Nat.not_lt.mp fun repeated => once ⟨name, known, repeated⟩
  | _ => rfl

theorem ofRaw_of_repeats {members : List (String × Json)} (repeated : Repeats members) :
    ofRaw (.object members) = .error .descriptorShape := by
  rw [ofRaw, ofJson, ofMembers, if_pos (repeatsMember_iff.mpr repeated)]
  rfl

theorem Fault.cases {json : Json} {error : Error} (fault : Fault json error) :
    error = .descriptorShape ∨ error = .descriptorBase ∨ ∃ tag, error = .unknownTypeTag tag := by
  cases fault with
  | tag _ => exact .inr (.inr ⟨_, rfl⟩)
  | shape _ _ => exact .inl rfl
  | fields fault =>
      cases fault with
      | shape _ => exact .inl rfl
      | base _ _ => exact .inr (.inl rfl)
      | tag tag _ _ _ _ => exact .inr (.inr ⟨tag, rfl⟩)

theorem detail_reported {error : Error} (other : error ≠ .descriptorShape) :
    (reported error).detail = Text.repositioned error.message := by
  unfold reported
  split
  · exact absurd rfl other
  · rfl

theorem retold_reported {json : Json} {error : Error} (fault : Fault json error) :
    (reported error).category = .serialization ∧ Retold error (reported error).detail := by
  rcases fault.cases with rfl | rfl | ⟨tag, rfl⟩
  · exact ⟨rfl, .shape⟩
  · exact ⟨rfl, .base⟩
  refine ⟨rfl, ?_⟩
  have other : Error.unknownTypeTag tag ≠ .descriptorShape := nofun
  rw [detail_reported other, Text.repositioned]
  cases split : Text.splitPosition? (Error.message (.unknownTypeTag tag)) with
  | none => exact .unplaced tag (Text.splitPosition?_eq_none_iff.mp split)
  | some closing =>
      obtain ⟨body, line, column⟩ := closing
      have closes := Text.splitPosition?_eq_some_iff.mp split
      dsimp only [Text.Position.close]
      split_ifs with start
      · subst start
        exact .dropped tag body column closes
      · exact .placed tag body line column start closes

theorem schema_ofJson_column (name : String) (json : Json) :
    Schema.ofJson (.object [("columns", .object [(name, json)])]) =
      (fun descriptor => { columns := [(name, descriptor)] }) <$> ofJson json := by
  cases outcome : ofJson json <;>
    simp [Schema.ofJson, Schema.identityMember, Schema.columnMembers, Schema.columnsOfMembers,
      Keyed.find?, outcome, bind, Except.bind, pure, Except.pure, Functor.map, Except.map]

section Document

variable {document : String} {raw : Json} (valid : Json.readRaw? document = some raw)
include valid

theorem ofDocument_eq : ofDocument document = ofRaw raw := by
  rw [ofDocument, valid]
  rfl

theorem columnOfDocument_eq (name : String) : columnOfDocument name document =
    (fun descriptor => { columns := [(name, descriptor)] }) <$> ofJson raw.settle := by
  rw [columnOfDocument, Json.read?, valid]
  exact schema_ofJson_column name raw.settle

theorem agree (name : String) (distinct : ∀ members, raw = .object members → ¬Repeats members) :
    Agree name (ofDocument document) (columnOfDocument name document) := by
  rw [ofDocument_eq valid, columnOfDocument_eq valid, ofRaw, ← ofJson_settle distinct]
  cases outcome : ofJson raw.settle with
  | ok descriptor =>
      refine ⟨⟨fun _ => ⟨_, rfl⟩, fun _ => ⟨_, rfl⟩⟩, fun other => ?_, nofun⟩
      rw [mapError_eq_ok_iff, map_eq_ok_iff]
      simp
  | error error =>
      have fault := (ofJson_eq_error_iff (Json.settled_settle raw)).mp outcome
      obtain ⟨serialization, retold⟩ := retold_reported fault
      refine ⟨⟨nofun, nofun⟩, fun other => ⟨nofun, nofun⟩, ?_⟩
      rintro _ ⟨⟩
      refine ⟨?_, reported error, rfl, serialization, retold⟩
      exact fault.category.imp And.right And.right

end Document

/-- A descriptor without repeated known members reads alike alone and as a column. With one it is
refused alone, and as a column it has the last value of each. -/
theorem ofDocument_agrees_with_column {document : String} {raw : Json} (name : String)
    (valid : Json.readRaw? document = some raw) :
    ((∀ members, raw = .object members → ¬Repeats members) →
      Agree name (ofDocument document) (columnOfDocument name document)) ∧
    ∀ members, raw = .object members → Repeats members →
      ofDocument document = .error .descriptorShape ∧
      (∀ descriptor, columnOfDocument name document = .ok { columns := [(name, descriptor)] } ↔
        Written (fun field => Keyed.last? field members) descriptor) ∧
      ∀ error, columnOfDocument name document = .error error ↔
        FieldFault (fun field => Keyed.last? field members) error := by
  refine ⟨agree valid name, ?_⟩
  rintro members rfl repeated
  rw [ofDocument_eq valid, ofRaw_of_repeats repeated, columnOfDocument_eq valid,
    ofJson_settle_object]
  refine ⟨rfl, ?_, ?_⟩
  · intro descriptor
    rw [← ofFound_eq_ok_iff, map_eq_ok_iff]
    simp
  · intro error
    rw [map_eq_error_iff, ofFound_eq_error_iff]

def notedDocument : String :=
  "\x7b\"type\": \"int\", \"note\": 1, \"note\": \x7b\"note\": null\x7d\x7d"

def notedMembers : List (String × Json) :=
  [("type", .text "int"), ("note", .int 1), ("note", .object [("note", .null)])]

def retypedDocument : String :=
  "\x7b\"type\": \"blob\", \"null\": true, \"type\": \"string\"\x7d"

def retypedMembers : List (String × Json) :=
  [("type", .text "blob"), ("null", .bool true), ("type", .text "string")]

theorem readRaw?_noted : Json.readRaw? notedDocument = some (.object notedMembers) := by
  decide +kernel

theorem readRaw?_retyped : Json.readRaw? retypedDocument = some (.object retypedMembers) := by
  decide +kernel

def placedDocument : String := "\"x at line 007 column 08\""

def placedTag : Json := .text "x at line 007 column 08"

theorem readRaw?_placed : Json.readRaw? placedDocument = some placedTag := by
  decide +kernel

theorem ofDocument_agrees_with_column_typed :
    Agree "size" (ofDocument notedDocument) (columnOfDocument "size" notedDocument) ∧
      (Agree "size" (ofDocument placedDocument) (columnOfDocument "size" placedDocument) ∧
        ∃ report, ofDocument placedDocument = .error report ∧
          report.detail = "Unknown column type: x at line 7 column 8") ∧
      ofDocument retypedDocument = .error .descriptorShape ∧
      columnOfDocument "size" retypedDocument =
        .ok { columns := [("size", { base := .atomic .string, nullable := some true })] } := by
  obtain ⟨agrees, _⟩ := ofDocument_agrees_with_column "size" readRaw?_noted
  obtain ⟨placed, _⟩ := ofDocument_agrees_with_column "size" readRaw?_placed
  obtain ⟨_, differs⟩ := ofDocument_agrees_with_column "size" readRaw?_retyped
  have distinct : ¬Repeats notedMembers := by decide
  have repeated : Repeats retypedMembers := by decide
  obtain ⟨refused, columns, _⟩ := differs retypedMembers rfl repeated
  refine ⟨agrees ?_, ⟨placed nofun, ?_⟩, refused, (columns _).mpr ?_⟩
  · rintro _ ⟨⟩
    exact distinct
  · rw [ofDocument_eq readRaw?_placed]
    exact ⟨_, rfl, rfl⟩
  · exact ofFound_eq_ok_iff.mp rfl

def droppedDocument : String := "\"x at line 0 column 1\""

def droppedTag : Json := .text "x at line 0 column 1"

theorem readRaw?_dropped : Json.readRaw? droppedDocument = some droppedTag := by
  decide +kernel

/-- An unknown type whose name closes like a report loses that ending when it is reported. -/
theorem ofDocument_loses_position :
    ¬∀ (name document : String) (raw : Json) (error report : Error),
      Json.readRaw? document = some raw → (∀ members, raw = .object members → ¬Repeats members) →
      columnOfDocument name document = .error error → ofDocument document = .error report →
      report.detail = Error.detail .descriptorShape ∨ report.detail = error.message := by
  intro claimed
  have alone : ofDocument droppedDocument =
      .error (.insideDocument "Unknown column type: x") := by
    rw [ofDocument_eq readRaw?_dropped]
    rfl
  have column : columnOfDocument "size" droppedDocument =
      .error (.unknownTypeTag "x at line 0 column 1") := by
    rw [columnOfDocument_eq readRaw?_dropped]
    rfl
  rcases claimed "size" _ droppedTag _ _ readRaw?_dropped nofun column alone with shape | whole
  · exact absurd shape (by decide)
  · exact absurd whole (by decide)

end Descriptor

end BoundSql
