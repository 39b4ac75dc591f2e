import BoundSql.Proofs.LastValue
import BoundSql.Proofs.ReferenceChain
import BoundSql.Proofs.SchemaColumns
import BoundSql.Proofs.SettledDocument

/-! Registries loaded from documents. An entity is known by the last value under its name, whatever
the order in which the entities are registered, and in its schema a column is known by its name: the
primary key that is found by its flag is the one that is looked up. -/

namespace BoundSql

namespace Schema

def FirstPrimary (schema : Schema) (name : String) (descriptor : Descriptor) : Prop :=
  ∃ before after, schema.columns = before ++ (name, descriptor) :: after ∧
    descriptor.primary = true ∧ ∀ column ∈ before, column.2.primary = false

/-- Each column can be looked up by its name, the first primary key in particular. -/
structure Coherent (schema : Schema) : Prop where
  unique : (Keyed.keys schema.columns).Nodup
  own : ∀ name descriptor, (name, descriptor) ∈ schema.columns →
    schema.descriptor? name = some descriptor
  primary : schema.explicitIdentity = none → ∀ name descriptor,
    schema.FirstPrimary name descriptor →
    schema.identity? = some name ∧ schema.descriptor? name = some descriptor
  noPrimary : schema.explicitIdentity = none →
    (∀ column ∈ schema.columns, column.2.primary = false) → schema.identity? = none

theorem Coherent.of_unique {schema : Schema} (unique : (Keyed.keys schema.columns).Nodup) :
    schema.Coherent where
  unique := unique
  own := by
    intro name descriptor member
    exact Keyed.find?_of_mem unique member
  primary := by
    intro missing name descriptor ⟨before, after, columns, primary, others⟩
    constructor
    · exact identity?_eq_some_iff.mpr (.firstPrimary missing columns primary others)
    · exact Keyed.find?_of_mem unique (by simp [columns])
  noPrimary := by
    intro missing others
    simpa [identity?, missing] using others

theorem Coherent.identityColumn {schema : Schema} (coherent : schema.Coherent)
    (missing : schema.explicitIdentity = none) {name : String} {descriptor : Descriptor}
    (first : schema.FirstPrimary name descriptor) (entity : String) :
    schema.identityColumn entity = .ok (name, descriptor) := by
  obtain ⟨identity, found⟩ := coherent.primary missing name descriptor first
  simp only [Schema.identityColumn, identity, found]

end Schema

namespace Registry

def registered (schemas : List (String × Schema)) : Registry :=
  schemas.foldl (fun registry entry => registry.register entry.1 entry.2) []

/-- The last value under the name of the entity is read as the schema. -/
def Loads (written : List (String × Json)) (entity : String) (schema : Schema) : Prop :=
  ∃ json, Keyed.last? entity written = some json ∧ Schema.ofJson json.settle = .ok schema

def Refuses (written : List (String × Json)) (entity : String) (error : Error) : Prop :=
  ∃ json, Keyed.last? entity written = some json ∧ Schema.ofJson json.settle = .error error

structure LeadsTo (registry : Registry) (entity name : String) (descriptor : Descriptor) :
    Prop where
  follow : ∀ (visited : List String) (start : Descriptor), entity ∉ visited →
    start.base = .reference entity →
    registry.follow visited start =
      (registry.follow (visited ++ [entity]) descriptor.withoutKey).preceded
        [.following entity name]
  resolve : ∀ (dialect : Dialect) (start : Descriptor) (columnType : ColumnType),
    start.base = .reference entity → descriptor.base = .atomic columnType →
    dialect.resolve registry start =
      ⟨[.following entity name], dialect.definition columnType descriptor.withoutKey⟩

/-- The registry is what is written, an entity for each distinct name. -/
structure Coherent (written : List (String × Json)) (registry : Registry) : Prop where
  size : registry.length = (Keyed.keys written).eraseDups.length
  entities : ∀ entity, (∃ schema, registry.schema? entity = some schema) ↔
    entity ∈ Keyed.keys written
  schemas : ∀ entity schema, registry.schema? entity = some schema ↔ Loads written entity schema
  anyOrder : ∀ schemas : List (String × Schema),
    (Keyed.keys schemas).Perm (Keyed.keys written).eraseDups →
    (∀ entry ∈ schemas, Loads written entry.1 entry.2) →
    (registered schemas).length = registry.length ∧
      ∀ entity, (registered schemas).schema? entity = registry.schema? entity
  columns : ∀ entity schema, registry.schema? entity = some schema →
    schema.Coherent ∧ ∃ members columns, Keyed.last? entity written = some (.object members) ∧
      Keyed.last? "columns" members = some (.object columns) ∧
      Keyed.keys schema.columns = (Keyed.keys columns).eraseDups
  references : ∀ entity schema, registry.schema? entity = some schema →
    schema.explicitIdentity = none → ∀ name descriptor, schema.FirstPrimary name descriptor →
      registry.LeadsTo entity name descriptor

def LoadsAs (member : String × Json) (entry : String × Schema) : Prop :=
  entry.1 = member.1 ∧ Schema.ofJson member.2 = .ok entry.2

theorem registerMembers_eq_ok_iff {members : List (String × Json)} {registry result : Registry} :
    registerMembers registry members = .ok result ↔
      ∃ schemas, List.Forall₂ LoadsAs members schemas ∧
        result = schemas.foldl (fun registry entry => registry.register entry.1 entry.2)
          registry := by
  induction members generalizing registry with
  | nil => simp [registerMembers, eq_comm]
  | cons member rest ih =>
      obtain ⟨entity, json⟩ := member
      simp only [registerMembers, bind_eq_ok_iff, ih, List.forall₂_cons_left_iff]
      constructor
      · rintro ⟨schema, first, schemas, following, same⟩
        exact ⟨(entity, schema) :: schemas, ⟨_, _, ⟨rfl, first⟩, following, rfl⟩, same⟩
      · rintro ⟨_, ⟨⟨_, schema⟩, schemas, ⟨rfl, first⟩, following, rfl⟩, same⟩
        exact ⟨schema, first, schemas, following, same⟩

theorem registerMembers_eq_error_iff {members : List (String × Json)} {registry : Registry}
    {error : Error} :
    registerMembers registry members = .error error ↔
      Earliest (fun member cause => Schema.ofJson member.2 = .error cause) members error := by
  induction members generalizing registry with
  | nil => simp [registerMembers, not_earliest_nil]
  | cons member rest ih =>
      obtain ⟨entity, json⟩ := member
      simp only [registerMembers, bind_eq_error_iff, ih, earliest_cons_iff, ← ok_iff_not_error,
        exists_and_right]

theorem keys_of_loadsAs {members : List (String × Json)} {schemas : List (String × Schema)}
    (loads : List.Forall₂ LoadsAs members schemas) : Keyed.keys schemas = Keyed.keys members :=
  Keyed.keys_of_forall₂ (fun _ _ loaded => loaded.1) loads

theorem find?_of_loadsAs {members : List (String × Json)} {schemas : List (String × Schema)}
    (loads : List.Forall₂ LoadsAs members schemas) {entity : String} {schema : Schema} :
    Keyed.find? entity schemas = some schema ↔
      ∃ json, Keyed.find? entity members = some json ∧ Schema.ofJson json = .ok schema := by
  induction loads with
  | nil => simp
  | @cons member entry rest others first _ ih =>
      obtain ⟨other, json⟩ := member
      obtain ⟨name, read⟩ := entry
      obtain ⟨named, loaded⟩ := first
      obtain rfl : name = other := named
      by_cases same : name = entity
      · simp only [Keyed.find?, same, if_true, Option.some.injEq, exists_eq_left', loaded,
          Except.ok.injEq]
      · simpa [Keyed.find?, same] using ih

theorem leadsTo {registry : Registry} {entity name : String} {schema : Schema}
    {descriptor : Descriptor} (known : registry.schema? entity = some schema)
    (identity : schema.identityColumn entity = .ok (name, descriptor)) :
    registry.LeadsTo entity name descriptor := by
  have follow (visited : List String) (start : Descriptor) (fresh : entity ∉ visited)
      (reference : start.base = .reference entity) : registry.follow visited start =
        (registry.follow (visited ++ [entity]) descriptor.withoutKey).preceded
          [.following entity name] := by
    rw [follow_known reference fresh known, identity]
    rfl
  refine ⟨follow, ?_⟩
  intro dialect start columnType reference typed
  have ended : descriptor.withoutKey.base = .atomic columnType := typed
  rw [Dialect.resolve, follow [] start List.not_mem_nil reference, follow_atomic ended]
  rfl

section Document

open Json (settledMembers)

variable {written : List (String × Json)} {entity : String}

theorem Loads.unique {schema other : Schema} (loads : Loads written entity schema)
    (again : Loads written entity other) : schema = other := by
  obtain ⟨json, found, read⟩ := loads
  obtain ⟨_, same, readAgain⟩ := again
  cases found.symm.trans same
  exact Except.ok.inj (read.symm.trans readAgain)

theorem loads_iff {schemas : List (String × Schema)}
    (loads : List.Forall₂ LoadsAs (settledMembers written) schemas) {schema : Schema} :
    Keyed.find? entity schemas = some schema ↔ Loads written entity schema := by
  rw [find?_of_loadsAs loads, Json.find?_settled]
  simp only [Option.map_eq_some_iff]
  constructor
  · rintro ⟨_, ⟨json, found, rfl⟩, read⟩
    exact ⟨json, found, read⟩
  · rintro ⟨json, found, read⟩
    exact ⟨_, ⟨json, found, rfl⟩, read⟩

theorem Loads.columns {schema : Schema} (loads : Loads written entity schema) :
    ∃ members columns, Keyed.last? entity written = some (.object members) ∧
      Keyed.last? "columns" members = some (.object columns) ∧
      Keyed.keys schema.columns = (Keyed.keys columns).eraseDups := by
  obtain ⟨json, found, read⟩ := loads
  have object : ∃ members, json.settle = .object members := by
    by_contra none
    rw [Schema.ofJson_of_not_object (not_exists.mp none)] at read
    cases read
  obtain ⟨_, same⟩ := object
  obtain ⟨members, rfl, rfl⟩ := Json.settle_eq_object_iff.mp same
  have settled : (Json.object (settledMembers members)).Settled :=
    Json.settled_settle (.object members)
  obtain ⟨entries, given, every⟩ := ((Schema.ofJson_object_eq_ok_iff settled).mp read).columns
  rw [Json.find?_settled, Option.map_eq_some_iff] at given
  obtain ⟨columnsJson, columnsFound, inside⟩ := given
  obtain ⟨columns, rfl, rfl⟩ := Json.settle_eq_object_iff.mp inside
  refine ⟨members, columns, found, columnsFound, ?_⟩
  rw [Keyed.keys_of_forall₂ (fun _ _ column => column.name) every, Json.keys_settled]

theorem nodup_distinct (names : List (String × Json)) : (Keyed.keys names).eraseDups.Nodup := by
  rw [← Keyed.keys_ofList]
  exact Keyed.keys_ofList_nodup names

theorem coherent_of_loads {schemas : List (String × Schema)}
    (loads : List.Forall₂ LoadsAs (settledMembers written) schemas) :
    Coherent written schemas := by
  have names : Keyed.keys schemas = (Keyed.keys written).eraseDups := by
    rw [keys_of_loadsAs loads, Json.keys_settled]
  have known (entity : String) (schema : Schema) :
      schema? entity schemas = some schema ↔ Loads written entity schema := loads_iff loads
  have coherent {entity : String} {schema : Schema} (loaded : Loads written entity schema) :
      schema.Coherent := by
    obtain ⟨_, columns, _, _, columnNames⟩ := loaded.columns
    exact .of_unique (columnNames ▸ nodup_distinct columns)
  refine ⟨?size, ?entities, known, ?anyOrder, ?columns, ?references⟩
  case size =>
    rw [← names, Keyed.keys, List.length_map]
  case entities =>
    intro entity
    rw [schema?, ← Keyed.mem_keys_iff, names, List.mem_eraseDups]
  case anyOrder =>
    intro order perm each
    have unique : (Keyed.keys order).Nodup := perm.nodup_iff.mpr (nodup_distinct written)
    have registered : registered order = order := Keyed.ofList_of_nodup unique
    have sameNames : (Keyed.keys order).Perm (Keyed.keys schemas) := names ▸ perm
    rw [registered]
    refine ⟨by simpa [Keyed.keys] using sameNames.length_eq, ?_⟩
    intro entity
    apply Option.ext
    intro schema
    rw [known]
    constructor
    · intro found
      exact each (entity, schema) (Keyed.mem_of_find? found)
    · intro loaded
      have member : entity ∈ Keyed.keys order :=
        sameNames.mem_iff.mpr (Keyed.mem_keys_of_find? ((known entity schema).mpr loaded))
      obtain ⟨other, found⟩ := Keyed.mem_keys_iff.mp member
      have same := (each (entity, other) (Keyed.mem_of_find? found)).unique loaded
      exact same ▸ found
  case columns =>
    intro entity schema found
    have loaded := (known entity schema).mp found
    exact ⟨coherent loaded, loaded.columns⟩
  case references =>
    intro entity schema found missing name descriptor first
    have loaded := (known entity schema).mp found
    exact leadsTo found ((coherent loaded).identityColumn missing first entity)

theorem ofDocument_eq {document : String}
    (read : Json.readRaw? document = some (.object written)) :
    ofDocument document = registerMembers [] (settledMembers written) := by
  rw [ofDocument, Json.read?, read]
  rfl

theorem ofDocument_eq_error_iff {document : String} {error : Error}
    (read : Json.readRaw? document = some (.object written)) :
    ofDocument document = .error error ↔
      Earliest (Refuses written) (Keyed.keys written).eraseDups error := by
  have unique : (Keyed.keys (settledMembers written)).Nodup := Keyed.keys_ofList_nodup _
  rw [ofDocument_eq read, registerMembers_eq_error_iff, ← Json.keys_settled, Keyed.keys,
    earliest_map_iff]
  apply earliest_congr
  intro member inside cause
  have found := Keyed.find?_of_mem unique inside
  rw [Json.find?_settled, Option.map_eq_some_iff] at found
  obtain ⟨json, last, same⟩ := found
  simp [Refuses, last, same]

theorem exists_written {document : String} {registry : Registry}
    (loaded : ofDocument document = .ok registry) :
    ∃ written, Json.readRaw? document = some (.object written) := by
  obtain ⟨json, read, found⟩ := bind_eq_ok_iff.mp loaded
  obtain ⟨raw, readRaw, rfl⟩ := Option.map_eq_some_iff.mp (Error.ifNone_eq_ok_iff.mp read)
  have object : ∃ members, raw.settle = .object members := by
    cases settled : raw.settle with
    | object members => exact ⟨members, rfl⟩
    | _ => simp [settled] at found
  obtain ⟨_, same⟩ := object
  obtain ⟨written, rfl, _⟩ := Json.settle_eq_object_iff.mp same
  exact ⟨written, readRaw⟩

/-- A document that loads gives a coherent registry. An object that does not load fails at the first
entity whose last value is refused. -/
theorem ofDocument_is_coherent (document : String) :
    (∀ registry, ofDocument document = .ok registry →
      ∃ written, Json.readRaw? document = some (.object written) ∧ Coherent written registry) ∧
    ∀ written, Json.readRaw? document = some (.object written) → ∀ error,
      ofDocument document = .error error ↔
        Earliest (Refuses written) (Keyed.keys written).eraseDups error := by
  refine ⟨?_, fun written read error => ofDocument_eq_error_iff read⟩
  intro registry loaded
  obtain ⟨written, read⟩ := exists_written loaded
  refine ⟨written, read, ?_⟩
  rw [ofDocument_eq read] at loaded
  obtain ⟨schemas, loads, rfl⟩ := registerMembers_eq_ok_iff.mp loaded
  have unique : (Keyed.keys schemas).Nodup := by
    rw [keys_of_loadsAs loads, Json.keys_settled]
    exact nodup_distinct written
  have registered : registered schemas = schemas := Keyed.ofList_of_nodup unique
  change Coherent written (Registry.registered schemas)
  rw [registered]
  exact coherent_of_loads loads

end Document

def clubDocument : String :=
  "\x7b\"member\":7,\"club\":\x7b\"columns\":\x7b\"head\":\x7b\"references\":\"member\"\x7d\x7d\x7d,"
    ++ "\"member\":\x7b\"columns\":\x7b\"id\":\"text\",\"name\":\"string\","
    ++ "\"id\":\x7b\"type\":\"int\",\"primary\":true\x7d\x7d\x7d\x7d"

def clubMembers : List (String × Json) :=
  [("member", .int 7),
    ("club", .object [("columns", .object [("head", .object [("references", .text "member")])])]),
    ("member", .object [("columns", .object [("id", .text "text"), ("name", .text "string"),
      ("id", .object [("type", .text "int"), ("primary", .bool true)])])])]

def clubRegistry : Registry :=
  [("member", { columns :=
      [("id", { base := .atomic .int, primary := true }), ("name", { base := .atomic .string })] }),
    ("club", { columns := [("head", { base := .reference "member" })] })]

def teamDocument : String :=
  "\x7b\"team\":\x7b\"columns\":\x7b\x7d\x7d,\"coach\":1,"
    ++ "\"team\":\x7b\"columns\":\x7b\"id\":\"blob\"\x7d\x7d\x7d"

def teamMembers : List (String × Json) :=
  [("team", .object [("columns", .object [])]), ("coach", .int 1),
    ("team", .object [("columns", .object [("id", .text "blob")])])]

theorem readRaw?_clubDocument : Json.readRaw? clubDocument = some (.object clubMembers) := by
  decide +kernel

theorem readRaw?_teamDocument : Json.readRaw? teamDocument = some (.object teamMembers) := by
  decide +kernel

theorem ofDocument_is_coherent_clubs :
    Coherent clubMembers clubRegistry ∧
      Earliest (Refuses teamMembers) (Keyed.keys teamMembers).eraseDups
        (.unknownTypeTag "blob") := by
  have loaded : ofDocument clubDocument = .ok clubRegistry := by
    rw [ofDocument_eq readRaw?_clubDocument]
    rfl
  have failed : ofDocument teamDocument = .error (.unknownTypeTag "blob") := by
    rw [ofDocument_eq readRaw?_teamDocument]
    rfl
  obtain ⟨coherent, _⟩ := ofDocument_is_coherent clubDocument
  obtain ⟨_, refuses⟩ := ofDocument_is_coherent teamDocument
  obtain ⟨written, read, found⟩ := coherent clubRegistry loaded
  cases read.symm.trans readRaw?_clubDocument
  exact ⟨found, (refuses teamMembers readRaw?_teamDocument _).mp failed⟩

end Registry

end BoundSql
