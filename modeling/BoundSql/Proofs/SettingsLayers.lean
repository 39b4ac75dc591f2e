import BoundSql.Proofs.DatabaseLayers

/-! Settings documents over the defaults: which documents load, and what settings they give. The
`default` alias takes what the document leaves out from the defaults; any other alias is as the
document has it, or not at all. -/

namespace BoundSql

namespace Settings

open Json (Laid membersOf)

def standardEntries : List (String × Json) := [(defaultAlias, DatabaseSettings.toJson {})]

def standardMembers : List (String × Json) :=
  [("debug", .bool true), ("log_level", .text "info"), ("databases", .object standardEntries)]

theorem toJson_standard : toJson {} = .object standardMembers := rfl

def entries (overlay : List (String × Json)) : List (String × Json) :=
  membersOf (Keyed.find? "databases" overlay)

/-- The document is right in type wherever it is read, and in full for every alias that the
defaults do not have. -/
structure Fits (overlay : List (String × Json)) : Prop where
  debug : ∀ json ∈ Keyed.find? "debug" overlay, ∃ value, json = .bool value
  logLevel : ∀ json ∈ Keyed.find? "log_level" overlay, ∃ content, json = .text content
  databases : ∀ json ∈ Keyed.find? "databases" overlay, ∃ members, json = .object members
  entries : ∀ entry ∈ entries overlay, ∃ members, entry.2 = .object members ∧
    DatabaseSettings.Fits members ∧ (entry.1 ≠ defaultAlias →
      "engine" ∈ Keyed.keys members ∧ "table_prefix" ∈ Keyed.keys members)

/-- The settings are the document's where it has any and those of the defaults elsewhere. -/
structure Layers (overlay : List (String × Json)) (settings : Settings) : Prop where
  debug : Laid (Keyed.find? "debug" overlay) .bool true settings.debug
  logLevel : Laid (Keyed.find? "log_level" overlay) .text "info" settings.logLevel
  unique : (Keyed.keys settings.databases).Nodup
  aliases : ∀ name, name ∈ Keyed.keys settings.databases ↔
    name = defaultAlias ∨ name ∈ Keyed.keys (entries overlay)
  standard : ∃ database, settings.defaultDatabase? = some database ∧
    database.Overridden (membersOf (Keyed.find? defaultAlias (entries overlay)))
  others : ∀ name ∈ Keyed.keys (entries overlay), name ≠ defaultAlias →
    ∃ members database, Keyed.find? name (entries overlay) = some (.object members) ∧
      settings.database? name = some database ∧ database.Written members

theorem ofMembers_eq_ok_iff {members : List (String × Json)} {settings : Settings}
    (unique : (Keyed.keys members).Nodup) :
    ofMembers members = .ok settings ↔
      Keyed.find? "debug" members = some (.bool settings.debug) ∧
      Keyed.find? "log_level" members = some (.text settings.logLevel) ∧
      ∃ entries, Keyed.find? "databases" members = some (.object entries) ∧
        DatabaseSettings.keyedOfMembers entries = .ok settings.databases := by
  simp only [ofMembers, bind_eq_ok_iff, Json.required_eq_ok_iff, Json.asBool_eq_ok_iff,
    Json.asText_eq_ok_iff, DatabaseSettings.keyedOfJson_eq_ok_iff]
  constructor
  · rintro ⟨_, _, _, debug, _, logLevel, _, databases, _, rfl, _, rfl, _, ⟨_, rfl, read⟩, same⟩
    cases same
    exact ⟨debug, logLevel, _, databases, read⟩
  · rintro ⟨debug, logLevel, entries, databases, read⟩
    have checked : ∀ member ∈ members, checkMember member.1 member.2 = .ok () := by
      rintro ⟨name, content⟩ member
      have found : Keyed.find? name members = some content := Keyed.find?_of_mem unique member
      dsimp only [checkMember]
      split
      · cases found.symm.trans debug
        rfl
      · cases found.symm.trans logLevel
        rfl
      · cases found.symm.trans databases
        exact Json.discard_eq_ok_iff.mpr ⟨_, read⟩
      · rfl
    exact ⟨(), Json.checkMembers_eq_ok_iff.mpr checked, _, debug, _, logLevel, _, databases,
      _, rfl, _, rfl, _, ⟨_, rfl, read⟩, rfl⟩

section

variable {overlay : List (String × Json)} {settings : Settings}
variable (settled : (Json.object overlay).Settled)
variable (tables : ∀ name items, (name, Json.array items) ∉ entries overlay)
include settled

theorem ofMembers_over_standard_iff :
    ofMembers (Json.mergeMembers standardMembers overlay) = .ok settings ↔
      Laid (Keyed.find? "debug" overlay) .bool true settings.debug ∧
      Laid (Keyed.find? "log_level" overlay) .text "info" settings.logLevel ∧
      (∀ json ∈ Keyed.find? "databases" overlay, ∃ members, json = .object members) ∧
      DatabaseSettings.keyedOfMembers (Json.mergeMembers standardEntries (entries overlay)) =
        .ok settings.databases := by
  have unique := (Json.settled_object_iff.mp settled).1
  have debug : Keyed.find? "debug" (Json.mergeMembers standardMembers overlay) =
      some (.bool settings.debug) ↔
        Laid (Keyed.find? "debug" overlay) .bool true settings.debug := by
    rw [Json.find?_over_scalar unique rfl (by simp), Option.some_inj]
    exact Json.getD_eq_encode_iff fun _ _ => Json.bool.inj
  have databases (members : List (String × Json)) :
      Keyed.find? "databases" (Json.mergeMembers standardMembers overlay) =
        some (.object members) ↔
      (∀ json ∈ Keyed.find? "databases" overlay, ∃ members, json = .object members) ∧
        members = Json.mergeMembers standardEntries (entries overlay) := by
    rw [Json.find?_mergeMembers _ _ unique]
    exact Json.layered?_object_eq_some_iff
  rw [ofMembers_eq_ok_iff (Json.keys_mergeMembers_nodup (by decide)), debug,
    Json.find?_over_text_iff unique rfl]
  simp only [databases, and_assoc, exists_and_left, exists_eq_left]

theorem keys_entries_nodup : (Keyed.keys (entries overlay)).Nodup :=
  (Json.settled_object_iff.mp (Json.settled_membersOf fun _ found => settled.find? found)).1

theorem settled_of_entry {name : String} {json : Json}
    (found : Keyed.find? name (entries overlay) = some json) : json.Settled :=
  (Json.settled_membersOf fun _ found => settled.find? found).find? found

theorem find?_standard_alias :
    Keyed.find? defaultAlias (Json.mergeMembers standardEntries (entries overlay)) =
      Json.layered? (some (DatabaseSettings.toJson {}))
        (Keyed.find? defaultAlias (entries overlay)) := by
  rw [Json.find?_mergeMembers _ _ (keys_entries_nodup settled)]
  rfl

theorem exists_find?_standard_alias : ∃ json, Keyed.find? defaultAlias
    (Json.mergeMembers standardEntries (entries overlay)) = some json := by
  rw [find?_standard_alias settled]
  cases Keyed.find? defaultAlias (entries overlay) <;> exact ⟨_, rfl⟩

theorem find?_other_alias {name : String} (different : name ≠ defaultAlias) :
    Keyed.find? name (Json.mergeMembers standardEntries (entries overlay)) =
      Keyed.find? name (entries overlay) := by
  have fresh : Keyed.find? name standardEntries = none := by
    simp [standardEntries, Keyed.find?, different.symm]
  rw [Json.find?_mergeMembers _ _ (keys_entries_nodup settled), fresh, Json.layered?_none_left]

include tables

theorem standard_alias_iff {json : Json} {database : DatabaseSettings}
    (laid : Keyed.find? defaultAlias (Json.mergeMembers standardEntries (entries overlay)) =
      some json) :
    DatabaseSettings.ofJson json = .ok database ↔
      (∀ above ∈ Keyed.find? defaultAlias (entries overlay),
        ∃ members, above = .object members) ∧
      database.Overridden (membersOf (Keyed.find? defaultAlias (entries overlay))) := by
  rw [find?_standard_alias settled] at laid
  exact DatabaseSettings.ofJson_over_standard_iff laid
    (fun items found => tables _ items (Keyed.mem_of_find? found))
    fun _ found => settled_of_entry settled found

theorem other_alias_iff {name : String} {json : Json} {database : DatabaseSettings}
    (found : Keyed.find? name (entries overlay) = some json) :
    DatabaseSettings.ofJson json = .ok database ↔
      ∃ members, json = .object members ∧ database.Written members := by
  refine DatabaseSettings.ofJson_eq_ok_iff (fun items same => ?_) (settled_of_entry settled found)
  exact tables name items (Keyed.mem_of_find? (same ▸ found))

theorem exists_standard_alias_iff {json : Json}
    (laid : Keyed.find? defaultAlias (Json.mergeMembers standardEntries (entries overlay)) =
      some json) :
    (∃ database, DatabaseSettings.ofJson json = .ok database) ↔
      ∀ above ∈ Keyed.find? defaultAlias (entries overlay),
        ∃ members, above = .object members ∧ DatabaseSettings.Fits members := by
  simp only [standard_alias_iff settled tables laid, exists_and_left,
    DatabaseSettings.exists_overridden_iff]
  constructor
  · rintro ⟨objects, fits⟩ above given
    obtain ⟨members, rfl⟩ := objects above given
    rw [Option.mem_def.mp given] at fits
    exact ⟨members, rfl, fits⟩
  · intro fitting
    refine ⟨fun above given => (fitting above given).imp fun _ => And.left, ?_⟩
    cases given : Keyed.find? defaultAlias (entries overlay) with
    | none => exact ⟨nofun, nofun, nofun⟩
    | some above =>
        obtain ⟨members, rfl, fits⟩ := fitting above given
        exact fits

theorem exists_other_alias_iff {name : String} {json : Json}
    (found : Keyed.find? name (entries overlay) = some json) :
    (∃ database, DatabaseSettings.ofJson json = .ok database) ↔
      ∃ members, json = .object members ∧ DatabaseSettings.Fits members ∧
        "engine" ∈ Keyed.keys members ∧ "table_prefix" ∈ Keyed.keys members := by
  simp only [other_alias_iff settled tables found]
  rw [exists_comm]
  simp only [exists_and_left, DatabaseSettings.exists_written_iff]

theorem layers_of_ofMembers
    (read : ofMembers (Json.mergeMembers standardMembers overlay) = .ok settings) :
    Layers overlay settings := by
  obtain ⟨debug, logLevel, _, read⟩ := (ofMembers_over_standard_iff settled).mp read
  have names := DatabaseSettings.keys_of_keyedOfMembers read
  refine ⟨debug, logLevel, ?unique, ?aliases, ?standard, ?others⟩
  case unique =>
    rw [names]
    exact Json.keys_mergeMembers_nodup (by decide)
  case aliases =>
    intro name
    rw [names, Json.keys_mergeMembers _ (keys_entries_nodup settled)]
    by_cases standard : name = defaultAlias <;> simp [standardEntries, Keyed.keys, standard]
  case standard =>
    obtain ⟨json, laid⟩ := exists_find?_standard_alias settled
    obtain ⟨database, decoded, found⟩ := DatabaseSettings.find?_of_keyedOfMembers read laid
    exact ⟨database, found, ((standard_alias_iff settled tables laid).mp decoded).2⟩
  case others =>
    intro name member different
    obtain ⟨json, given⟩ := Keyed.mem_keys_iff.mp member
    obtain ⟨database, decoded, found⟩ := DatabaseSettings.find?_of_keyedOfMembers read
      ((find?_other_alias settled different).trans given)
    obtain ⟨members, rfl, written⟩ := (other_alias_iff settled tables given).mp decoded
    exact ⟨members, database, given, found, written⟩

theorem exists_ofMembers_iff :
    (∃ settings, ofMembers (Json.mergeMembers standardMembers overlay) = .ok settings) ↔
      Fits overlay := by
  simp only [ofMembers_over_standard_iff settled]
  constructor
  · rintro ⟨settings, debug, logLevel, objects, read⟩
    refine ⟨Json.exists_laid_iff.mp ⟨_, debug⟩, Json.exists_laid_iff.mp ⟨_, logLevel⟩, objects, ?_⟩
    rintro ⟨name, json⟩ member
    have given : Keyed.find? name (entries overlay) = some json :=
      Keyed.find?_of_mem (keys_entries_nodup settled) member
    have decoded := DatabaseSettings.exists_keyedOfMembers_iff.mp ⟨_, read⟩
    -- The entry was read over the defaults if it is that of `default`, otherwise as it stands.
    by_cases standard : name = defaultAlias
    · subst standard
      obtain ⟨merged, laid⟩ := exists_find?_standard_alias settled
      have loads := decoded (defaultAlias, merged) (Keyed.mem_of_find? laid)
      obtain ⟨members, same, fits⟩ :=
        (exists_standard_alias_iff settled tables laid).mp loads json given
      exact ⟨members, same, fits, fun different => absurd rfl different⟩
    · have loads := decoded (name, json)
        (Keyed.mem_of_find? ((find?_other_alias settled standard).trans given))
      obtain ⟨members, same, fits, needed⟩ := (exists_other_alias_iff settled tables given).mp loads
      exact ⟨members, same, fits, fun _ => needed⟩
  · intro fits
    obtain ⟨debug, laidDebug⟩ := Json.exists_laid_iff.mpr fits.debug
    obtain ⟨logLevel, laidLevel⟩ := Json.exists_laid_iff.mpr fits.logLevel
    -- Every merged entry fits: the one of `default`, which may come from the defaults alone, and
    -- those of the document.
    have decoded : ∀ entry ∈ Json.mergeMembers standardEntries (entries overlay),
        ∃ database, DatabaseSettings.ofJson entry.2 = .ok database := by
      rintro ⟨name, json⟩ member
      have laid := Keyed.find?_of_mem (Json.keys_mergeMembers_nodup (by decide)) member
      by_cases standard : name = defaultAlias
      · subst standard
        refine (exists_standard_alias_iff settled tables laid).mpr fun above given => ?_
        obtain ⟨members, same, fitting, _⟩ :=
          fits.entries (defaultAlias, above) (Keyed.mem_of_find? given)
        exact ⟨members, same, fitting⟩
      · rw [find?_other_alias settled standard] at laid
        obtain ⟨members, same, fitting, needed⟩ :=
          fits.entries (name, json) (Keyed.mem_of_find? laid)
        exact (exists_other_alias_iff settled tables laid).mpr
          ⟨members, same, fitting, needed standard⟩
    obtain ⟨databases, read⟩ := DatabaseSettings.exists_keyedOfMembers_iff.mpr decoded
    exact ⟨⟨debug, logLevel, databases⟩, laidDebug, laidLevel, fits.databases, read⟩

end

def isField (name : String) : Bool :=
  name == "debug" || name == "log_level" || name == "databases"

def known : Json → Json :=
  Json.restrict isField fun name =>
    if name = "databases" then DatabaseSettings.knownEntries else id

theorem ofJson_known (json : Json) : ofJson (known json) = ofJson json := by
  cases json with
  | object members =>
      have unread (name : String) (content : Json) (other : isField name = false) :
          checkMember name content = .ok () := by
        unfold checkMember
        split <;> first | rfl | exact absurd other (by decide)
      have same (name : String) (content : Json) : checkMember name
          ((if name = "databases" then DatabaseSettings.knownEntries else id) content) =
            checkMember name content := by
        by_cases databases : name = "databases"
        · simp [databases, checkMember, DatabaseSettings.keyedOfJson_knownEntries]
        · simp [databases]
      simp only [known, Json.restrict, ofJson, ofMembers, Json.required]
      rw [Json.checkMembers_restrictMembers unread same,
        Json.find?_restrictMembers_of_same (by decide) (fun content => rfl),
        Json.find?_restrictMembers_of_same (by decide) (fun content => rfl),
        Json.find?_restrictMembers]
      cases Keyed.find? "databases" members with
      | none => rfl
      | some content =>
          simp [isField, DatabaseSettings.keyedOfJson_knownEntries, bind, Except.bind]
  | _ => rfl

theorem known_merge (base overlay : Json) :
    known (Json.merge base overlay) = Json.merge (known base) (known overlay) := by
  have entry (old new : Json) : DatabaseSettings.known (Json.merge old new) =
      Json.merge (DatabaseSettings.known old) (DatabaseSettings.known new) :=
    Json.restrict_merge _ (fun _ _ _ => rfl) old new
  have databases (old new : Json) : DatabaseSettings.knownEntries (Json.merge old new) =
      Json.merge (DatabaseSettings.knownEntries old) (DatabaseSettings.knownEntries new) :=
    Json.restrict_merge _ (fun _ => entry) old new
  refine Json.restrict_merge _ (fun name old new => ?_) base overlay
  split
  · exact databases old new
  · rfl

theorem layered_known (format : Format) (overlay : Json) :
    layered format (known overlay) = layered format overlay := by
  have standard : known (toJson {}) = toJson {} := rfl
  rw [layered, layered, ← ofJson_known (Json.merge (toJson {}) overlay), known_merge, standard]

theorem layered_eq_ok_iff {format : Format} {overlay : Json} {settings : Settings} :
    layered format overlay = .ok settings ↔
      ofJson (Json.merge (toJson {}) overlay) = .ok settings := by
  rw [layered, mapError_eq_ok_iff]

theorem ofDocument_of_read {format : Format} {document : String} {overlay : Json}
    (read : readDocument? format document = some overlay) :
    ofDocument format document = layered format overlay := by
  rw [ofDocument, read]
  rfl

/-- A document loads exactly if it fits, and then its settings are laid over the defaults. What
nothing reads has no effect, not even on the error, and the format has none on the settings. -/
theorem ofDocument_layers_over_defaults {format : Format} {document : String}
    {overlay : List (String × Json)}
    (read : readDocument? format document = some (.object overlay))
    (tables : ∀ name items, (name, Json.array items) ∉ entries overlay) :
    ((∃ settings, ofDocument format document = .ok settings) ↔ Fits overlay) ∧
    (∀ settings, ofDocument format document = .ok settings → Layers overlay settings) ∧
    ofDocument format document = layered format (known (.object overlay)) ∧
    ∀ (otherFormat : Format) (other : String) (otherOverlay : Json),
      readDocument? otherFormat other = some otherOverlay →
      known otherOverlay = known (.object overlay) →
      ∀ settings, ofDocument otherFormat other = .ok settings ↔
        ofDocument format document = .ok settings := by
  have settled : (Json.object overlay).Settled := settled_of_readDocument? read
  have loads (settings : Settings) : ofDocument format document = .ok settings ↔
      ofMembers (Json.mergeMembers standardMembers overlay) = .ok settings := by
    rw [ofDocument_of_read read, layered_eq_ok_iff, toJson_standard, Json.merge, ofJson]
  refine ⟨?fits, ?layers, ?unread, ?format⟩
  case fits =>
    simp only [loads]
    exact exists_ofMembers_iff settled tables
  case layers =>
    intro settings loaded
    exact layers_of_ofMembers settled tables ((loads settings).mp loaded)
  case unread =>
    rw [ofDocument_of_read read, layered_known]
  case format =>
    intro otherFormat other otherOverlay otherRead same settings
    rw [ofDocument_of_read read, ofDocument_of_read otherRead, ← layered_known otherFormat,
      ← layered_known format, same, layered_eq_ok_iff, layered_eq_ok_iff]

def replicaToml : String :=
  "color = 1\n[databases.default]\ntable_prefix = 'a_'\n[databases.old]\nengine = 'e'\n" ++
    "table_prefix = ''\n"

def replicaJson : String :=
  "\x7b\"databases\":\x7b\"default\":\x7b\"table_prefix\":\"a_\"\x7d," ++
    "\"old\":\x7b\"engine\":\"e\",\"table_prefix\":\"\",\"pool\":4\x7d\x7d\x7d"

def replicaEntries : List (String × Json) :=
  [("default", .object [("table_prefix", .text "a_")]),
    ("old", .object [("engine", .text "e"), ("table_prefix", .text "")])]

def replicaSettings : Settings where
  databases := [("default", { tablePrefix := "a_" }), ("old", { engine := "e", tablePrefix := "" })]

theorem readDocument?_replicaToml : readDocument? .toml replicaToml =
    some (.object [("color", .int 1), ("databases", .object replicaEntries)]) := by
  decide +kernel

theorem readDocument?_replicaJson : readDocument? .json replicaJson =
    some (.object [("databases", .object [
      ("default", .object [("table_prefix", .text "a_")]),
      ("old", .object [
        ("engine", .text "e"), ("table_prefix", .text ""), ("pool", .int 4)])])]) := by
  decide +kernel

theorem ofDocument_layers_over_defaults_replica :
    ofDocument .toml replicaToml = .ok replicaSettings ∧
    Layers [("color", .int 1), ("databases", .object replicaEntries)] replicaSettings ∧
    ofDocument .json replicaJson = .ok replicaSettings := by
  have loaded : ofDocument .toml replicaToml = .ok replicaSettings := by
    rw [ofDocument_of_read readDocument?_replicaToml]
    rfl
  obtain ⟨_, layers, _, same⟩ := ofDocument_layers_over_defaults readDocument?_replicaToml
    (by simp [entries, Keyed.find?, membersOf, replicaEntries])
  exact ⟨loaded, layers replicaSettings loaded,
    (same .json replicaJson _ readDocument?_replicaJson rfl replicaSettings).mpr loaded⟩

end Settings

end BoundSql
