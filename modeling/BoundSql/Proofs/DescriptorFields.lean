import BoundSql.Proofs.FirstFault
import BoundSql.Schema.Document

/-! The fields of a column descriptor. A descriptor is read from what is found under six names; it
is accepted if everything found there is of the right type and exactly one of a type and a reference
is given, and otherwise the first of these conditions that fails is the error. -/

namespace BoundSql

namespace Descriptor

def Holds {α : Type} (encode : α → Json) (found : Option Json) : Option α → Prop
  | some content => found = some (encode content)
  | none => found = none ∨ found = some .null

def Flags (found : Option Json) (flag : Bool) : Prop :=
  found = some (.bool flag) ∨ found = none ∧ flag = false

structure WellTyped (found : String → Option Json) : Prop where
  tag : ∃ tag, Holds .text (found "type") tag
  entity : ∃ entity, Holds .text (found "references") entity
  primary : ∃ flag, Flags (found "primary") flag
  auto : ∃ flag, Flags (found "auto") flag
  nullable : ∃ nullable, Holds .bool (found "null") nullable
  defaultText : ∃ text, Holds .text (found "default") text

def Given (found : Option Json) : Prop := ∃ json, found = some json ∧ json ≠ .null

def OneBase (found : String → Option Json) : Prop :=
  Given (found "type") ∧ ¬Given (found "references") ∨
    ¬Given (found "type") ∧ Given (found "references")

def UnknownTag (tag : String) : Prop := ∀ columnType : ColumnType, columnType.tag ≠ tag

structure Accepted (found : String → Option Json) : Prop where
  typed : WellTyped found
  oneBase : OneBase found
  known : ∀ tag, found "type" = some (.text tag) → ¬UnknownTag tag

inductive Based (found : String → Option Json) : BaseType → Prop
  | type (columnType : ColumnType) : Holds .text (found "type") (some columnType.tag) →
      Holds .text (found "references") none → Based found (.atomic columnType)
  | reference (entity : String) : Holds .text (found "type") none →
      Holds .text (found "references") (some entity) → Based found (.reference entity)

structure Written (found : String → Option Json) (descriptor : Descriptor) : Prop where
  base : Based found descriptor.base
  primary : Flags (found "primary") descriptor.primary
  auto : Flags (found "auto") descriptor.auto
  nullable : Holds .bool (found "null") descriptor.nullable
  defaultText : Holds .text (found "default") descriptor.defaultText

inductive FieldFault (found : String → Option Json) : Error → Prop
  | shape : ¬WellTyped found → FieldFault found .descriptorShape
  | base : WellTyped found → ¬OneBase found → FieldFault found .descriptorBase
  | tag (tag : String) : WellTyped found → OneBase found → found "type" = some (.text tag) →
      UnknownTag tag → FieldFault found (.unknownTypeTag tag)

section Content

variable {α : Type} {content? : Json → Option α} {encode : α → Json}
variable (reads : ∀ json content, content? json = some content ↔ json = encode content)
variable (notNull : ∀ content, encode content ≠ .null)
include reads notNull

theorem optionalContent_eq_ok_iff {found : Option Json} {content : Option α} :
    optionalContent content? found = .ok content ↔ Holds encode found content := by
  unfold optionalContent
  split
  · cases content <;> simp [Holds]
  · cases content with
    | none => simp [Holds]
    | some content => simpa [Holds] using (notNull content).symm
  · rename_i json given
    simp only [map_eq_ok_iff, Error.ifNone_eq_ok_iff, reads]
    cases content with
    | none => simpa [Holds] using given
    | some content => simp [Holds]

omit reads notNull in
theorem optionalContent_eq_error {found : Option Json} {error : Error}
    (failed : optionalContent content? found = .error error) : error = .descriptorShape := by
  unfold optionalContent at failed
  split at failed
  · cases failed
  · cases failed
  · exact (Error.ifNone_eq_error_iff.mp (map_eq_error_iff.mp failed)).2.symm

end Content

theorem text?_eq_some_iff (json : Json) (content : String) :
    json.text? = some content ↔ json = .text content := by
  cases json <;> simp [Json.text?]

theorem bool?_eq_some_iff (json : Json) (content : Bool) :
    json.bool? = some content ↔ json = .bool content := by
  cases json <;> simp [Json.bool?]

theorem optionalText_eq_ok_iff {found : Option Json} {content : Option String} :
    optionalContent Json.text? found = .ok content ↔ Holds .text found content :=
  optionalContent_eq_ok_iff text?_eq_some_iff nofun

theorem Holds.unique {found : Option Json} {content other : Option String}
    (holds : Holds .text found content) (alike : Holds .text found other) : content = other := by
  have first := optionalText_eq_ok_iff.mpr holds
  have second := optionalText_eq_ok_iff.mpr alike
  exact Except.ok.inj (first.symm.trans second)

theorem optionalBool_eq_ok_iff {found : Option Json} {content : Option Bool} :
    optionalContent Json.bool? found = .ok content ↔ Holds .bool found content :=
  optionalContent_eq_ok_iff bool?_eq_some_iff nofun

theorem flagContent_eq_ok_iff {found : Option Json} {flag : Bool} :
    flagContent found = .ok flag ↔ Flags found flag := by
  cases found with
  | none => simp [flagContent, Flags, eq_comm]
  | some json => simp [flagContent, Flags, Error.ifNone_eq_ok_iff, bool?_eq_some_iff]

theorem flagContent_eq_error {found : Option Json} {error : Error}
    (failed : flagContent found = .error error) : error = .descriptorShape := by
  cases found with
  | none => cases failed
  | some json => exact (Error.ifNone_eq_error_iff.mp failed).2.symm

theorem read_eq_ok_iff {tag : String} {columnType : ColumnType} :
    ColumnType.read tag = .ok columnType ↔ tag = columnType.tag := by
  rw [ColumnType.read, Error.ifNone_eq_ok_iff]
  constructor
  · intro known
    unfold ColumnType.ofTag? at known
    split at known <;> cases known <;> rfl
  · rintro rfl
    exact columnType.ofTag?_tag

theorem read_eq_error_iff {tag : String} {error : Error} :
    ColumnType.read tag = .error error ↔ UnknownTag tag ∧ error = .unknownTypeTag tag := by
  have unknown : ColumnType.ofTag? tag = none ↔ UnknownTag tag := by
    rw [Option.eq_none_iff_forall_ne_some]
    apply forall_congr'
    intro columnType
    rw [Ne, ← Error.ifNone_eq_ok_iff]
    exact (not_congr read_eq_ok_iff).trans ne_comm
  rw [ColumnType.read, Error.ifNone_eq_error_iff, unknown, eq_comm]

section Given

variable {α : Type} {encode : α → Json} {found : Option Json} {content : Option α}

theorem given_iff (notNull : ∀ content, encode content ≠ .null)
    (holds : Holds encode found content) :
    Given found ↔ content ≠ none := by
  cases content with
  | none =>
      refine iff_of_false ?_ (by simp)
      rintro ⟨json, same, given⟩
      rcases holds with missing | null
      · simp [missing] at same
      · rw [null, Option.some.injEq] at same
        exact given same.symm
  | some given => exact iff_of_true ⟨encode given, holds, notNull given⟩ (by simp)

end Given

section Base

variable {found : String → Option Json} {tag entity : Option String}
variable (tagged : Holds .text (found "type") tag)
variable (referred : Holds .text (found "references") entity)
include tagged referred

theorem oneBase_iff : OneBase found ↔
    (tag ≠ none ∧ entity = none) ∨ (tag = none ∧ entity ≠ none) := by
  rw [OneBase, given_iff nofun tagged, given_iff nofun referred]
  simp only [ne_eq, Decidable.not_not]

theorem baseType_eq_error_iff (typed : WellTyped found) {error : Error} :
    baseType tag entity = .error error ↔ FieldFault found error := by
  have oneBase := oneBase_iff tagged referred
  constructor
  · intro failed
    match tag, entity with
    | some tag, none =>
        obtain ⟨unknown, rfl⟩ := read_eq_error_iff.mp (map_eq_error_iff.mp failed)
        exact .tag tag typed (oneBase.mpr (by simp)) tagged unknown
    | none, some _ => cases failed
    | none, none | some _, some _ =>
        cases failed
        exact .base typed (mt oneBase.mp (by simp))
  · intro fault
    cases fault with
    | shape mistyped => exact absurd typed mistyped
    | base _ notOne =>
        match tag, entity with
        | some _, none | none, some _ => exact absurd (oneBase.mpr (by simp)) notOne
        | none, none | some _, some _ => rfl
    | tag name _ one given unknown =>
        rcases oneBase.mp one with ⟨_, noEntity⟩ | ⟨noTag, _⟩
        · subst noEntity
          cases tag with
          | none => simp [Holds, given] at tagged
          | some tag =>
              obtain rfl : name = tag := by simpa [Holds, given] using tagged
              exact map_eq_error_iff.mpr (read_eq_error_iff.mpr ⟨unknown, rfl⟩)
        · subst noTag
          simp [Holds, given] at tagged

theorem baseType_eq_ok_iff {base : BaseType} :
    baseType tag entity = .ok base ↔ Based found base := by
  constructor
  · intro read
    match tag, entity with
    | some tag, none =>
        obtain ⟨columnType, known, rfl⟩ := map_eq_ok_iff.mp read
        obtain rfl := read_eq_ok_iff.mp known
        exact .type columnType tagged referred
    | none, some entity =>
        cases read
        exact .reference entity tagged referred
    | none, none | some _, some _ => cases read
  · intro based
    cases based with
    | type columnType given missing =>
        obtain rfl := tagged.unique given
        obtain rfl := referred.unique missing
        exact map_eq_ok_iff.mpr ⟨columnType, read_eq_ok_iff.mpr rfl, rfl⟩
    | reference name missing given =>
        obtain rfl := tagged.unique missing
        obtain rfl := referred.unique given
        rfl

end Base

theorem Based.fields {found : String → Option Json} {base : BaseType} (based : Based found base) :
    ∃ tag entity, Holds .text (found "type") tag ∧ Holds .text (found "references") entity := by
  cases based with
  | type columnType given missing => exact ⟨_, _, given, missing⟩
  | reference entity missing given => exact ⟨_, _, missing, given⟩

theorem Written.typed {found : String → Option Json} {descriptor : Descriptor}
    (written : Written found descriptor) : WellTyped found := by
  obtain ⟨tag, entity, tagged, referred⟩ := written.base.fields
  exact ⟨⟨tag, tagged⟩, ⟨entity, referred⟩, ⟨_, written.primary⟩, ⟨_, written.auto⟩,
    ⟨_, written.nullable⟩, ⟨_, written.defaultText⟩⟩

section Found

variable {found : String → Option Json}

theorem ofFound_eq_ok_iff {descriptor : Descriptor} :
    ofFound found = .ok descriptor ↔ Written found descriptor := by
  simp only [ofFound, bind_eq_ok_iff, optionalText_eq_ok_iff, optionalBool_eq_ok_iff,
    flagContent_eq_ok_iff]
  constructor
  · rintro ⟨tag, tagged, entity, referred, _, primary, _, auto, _, nullable, _, text, _, read, same⟩
    cases same
    exact ⟨(baseType_eq_ok_iff tagged referred).mp read, primary, auto, nullable, text⟩
  · intro written
    obtain ⟨tag, entity, tagged, referred⟩ := written.base.fields
    exact ⟨tag, tagged, entity, referred, _, written.primary, _, written.auto, _, written.nullable,
      _, written.defaultText, _, (baseType_eq_ok_iff tagged referred).mpr written.base, rfl⟩

theorem ofFound_of_typed (typed : WellTyped found) {error : Error} :
    ofFound found = .error error ↔ FieldFault found error := by
  obtain ⟨tag, tagged⟩ := typed.tag
  obtain ⟨entity, referred⟩ := typed.entity
  obtain ⟨_, primary⟩ := typed.primary
  obtain ⟨_, auto⟩ := typed.auto
  obtain ⟨_, nullable⟩ := typed.nullable
  obtain ⟨_, defaultText⟩ := typed.defaultText
  rw [← baseType_eq_error_iff tagged referred typed, ofFound, optionalText_eq_ok_iff.mpr tagged,
    optionalText_eq_ok_iff.mpr referred, flagContent_eq_ok_iff.mpr primary,
    flagContent_eq_ok_iff.mpr auto, optionalBool_eq_ok_iff.mpr nullable,
    optionalText_eq_ok_iff.mpr defaultText]
  cases base : baseType tag entity <;> simp [base, bind, Except.bind, pure, Except.pure]

theorem ofFound_of_mistyped (mistyped : ¬WellTyped found) :
    ofFound found = .error .descriptorShape := by
  cases outcome : ofFound found with
  | ok descriptor => exact absurd (ofFound_eq_ok_iff.mp outcome).typed mistyped
  | error error =>
      rw [ofFound] at outcome
      rcases bind_eq_error_iff.mp outcome with failed | ⟨tag, tagged, outcome⟩
      · rw [optionalContent_eq_error failed]
      rcases bind_eq_error_iff.mp outcome with failed | ⟨entity, referred, outcome⟩
      · rw [optionalContent_eq_error failed]
      rcases bind_eq_error_iff.mp outcome with failed | ⟨_, primary, outcome⟩
      · rw [flagContent_eq_error failed]
      rcases bind_eq_error_iff.mp outcome with failed | ⟨_, auto, outcome⟩
      · rw [flagContent_eq_error failed]
      rcases bind_eq_error_iff.mp outcome with failed | ⟨_, nullable, outcome⟩
      · rw [optionalContent_eq_error failed]
      rcases bind_eq_error_iff.mp outcome with failed | ⟨_, text, _⟩
      · rw [optionalContent_eq_error failed]
      exact absurd ⟨⟨tag, optionalText_eq_ok_iff.mp tagged⟩,
        ⟨entity, optionalText_eq_ok_iff.mp referred⟩, ⟨_, flagContent_eq_ok_iff.mp primary⟩,
        ⟨_, flagContent_eq_ok_iff.mp auto⟩, ⟨_, optionalBool_eq_ok_iff.mp nullable⟩,
        ⟨_, optionalText_eq_ok_iff.mp text⟩⟩ mistyped

theorem ofFound_eq_error_iff {error : Error} :
    ofFound found = .error error ↔ FieldFault found error := by
  by_cases typed : WellTyped found
  · exact ofFound_of_typed typed
  · rw [ofFound_of_mistyped typed, Except.error.injEq]
    constructor
    · rintro rfl
      exact .shape typed
    · intro fault
      cases fault with
      | shape _ => rfl
      | base well _ => exact absurd well typed
      | tag _ well _ _ _ => exact absurd well typed

theorem exists_fieldFault_iff : (∃ error, FieldFault found error) ↔ ¬Accepted found := by
  constructor
  · rintro ⟨error, fault⟩ accepted
    cases fault with
    | shape mistyped => exact mistyped accepted.typed
    | base _ notOne => exact notOne accepted.oneBase
    | tag tag _ _ given unknown => exact accepted.known tag given unknown
  · intro refused
    by_cases typed : WellTyped found
    · by_cases one : OneBase found
      · by_cases known : ∃ tag, found "type" = some (.text tag) ∧ UnknownTag tag
        · obtain ⟨tag, given, unknown⟩ := known
          exact ⟨_, .tag tag typed one given unknown⟩
        · refine absurd ⟨typed, one, ?_⟩ refused
          intro tag given unknown
          exact known ⟨tag, given, unknown⟩
      · exact ⟨_, .base typed one⟩
    · exact ⟨_, .shape typed⟩

end Found

theorem count_keys (name : String) (members : List (String × Json)) :
    (Keyed.keys members).count name =
      (members.filter fun member => member.1 = name).length := by
  rw [Keyed.keys, List.count_eq_countP, List.countP_map, List.countP_eq_length_filter]
  rfl

def Repeats (members : List (String × Json)) : Prop :=
  ∃ name ∈ knownMembers, 1 < (Keyed.keys members).count name

theorem repeatsMember_iff {members : List (String × Json)} :
    repeatsMember members = true ↔ Repeats members := by
  simp [repeatsMember, Repeats, count_keys]

instance (members : List (String × Json)) : Decidable (Repeats members) :=
  decidable_of_iff _ repeatsMember_iff

theorem ofMembers_of_nodup {members : List (String × Json)}
    (unique : (Keyed.keys members).Nodup) :
    ofMembers members = ofFound fun name => Keyed.find? name members := by
  have distinct : ¬repeatsMember members = true := by
    rw [repeatsMember_iff]
    rintro ⟨name, _, repeated⟩
    have once : (Keyed.keys members).count name ≤ 1 := List.nodup_iff_count.mp unique name
    omega
  rw [ofMembers, if_neg distinct]

end Descriptor

end BoundSql
