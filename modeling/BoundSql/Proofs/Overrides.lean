import BoundSql.Proofs.SettingsLayers
import BoundSql.Settings.Loader
import Mathlib.Logic.Basic

/-! Overrides from the environment. Each variable that is set changes its own setting and leaves
everything else, so settings that follow the environment are a fixed point. On top of a document the
environment comes first, then the document, then the defaults. -/

namespace BoundSql

open Environment (debugVariable logLevelVariable engineVariable tablePrefixVariable)

theorem Keyed.put_of_find? {α : Type} {key : String} {value : α} {entries : Keyed α}
    (found : find? key entries = some value) : put key value entries = entries := by
  induction entries with
  | nil => cases found
  | cons entry rest ih =>
      obtain ⟨name, old⟩ := entry
      by_cases same : name = key
      · subst same
        obtain rfl : old = value := by simpa [find?] using found
        simp [put]
      · simp [put, same, ih (by simpa [find?, same] using found)]

namespace Environment

theorem fromUTF8?_eq_some_iff {bytes : ByteArray} {text : String} :
    String.fromUTF8? bytes = some text ↔ bytes = text.toUTF8 := by
  unfold String.fromUTF8?
  constructor
  · intro decoded
    split at decoded
    · cases decoded
      rfl
    · cases decoded
  · rintro rfl
    exact dif_pos text.isValidUTF8

theorem text?_eq_some_iff {environment : Environment} {name text : String} :
    environment.text? name = some text ↔
      Keyed.find? name environment.entries = some text.toUTF8 := by
  unfold text?
  cases Keyed.find? name environment.entries with
  | none => simp
  | some bytes => rw [fromUTF8?_eq_some_iff, Option.some_inj]

theorem ofList_lower (text : String) : String.ofList (Text.lower text.toList) = text.toLower := by
  rw [Text.lower, ← String.toList_map, String.ofList_toList]
  rfl

def SwitchesOn (flag : String) : Prop :=
  flag.toLower ∈ ["1", "true", "yes", "on"]

theorem isOn_iff {flag : String} : isOn flag = true ↔ SwitchesOn flag := by
  rw [isOn, ofList_lower, List.contains_iff_mem, SwitchesOn]

def overrideVariables : List String :=
  [debugVariable, logLevelVariable, engineVariable, tablePrefixVariable]

def recordsOf (environment : Environment) (names : List String) : List Record :=
  (names.filter fun name => (environment.text? name).isSome).map .overriding

theorem recordsOf_append (environment : Environment) (first second : List String) :
    environment.recordsOf (first ++ second) =
      environment.recordsOf first ++ environment.recordsOf second := by
  simp [recordsOf]

end Environment

namespace Settings

section Step

variable {environment : Environment} {name : String} {settings : Settings}
variable {change : String → Settings → Settings}

def changedBy (environment : Environment) (name : String) (change : String → Settings → Settings)
    (settings : Settings) : Settings :=
  match environment.text? name with
  | some text => change text settings
  | none => settings

theorem overriding_eq : settings.overriding environment name change =
    ⟨environment.recordsOf [name], .ok (settings.changedBy environment name change)⟩ := by
  cases given : environment.text? name <;>
    simp [overriding, Environment.override?, Environment.recordsOf, changedBy, given] <;> rfl

theorem changedBy_keeps {α : Type} (field : Settings → α)
    (keeps : ∀ text settings, field (change text settings) = field settings) :
    field (settings.changedBy environment name change) = field settings := by
  unfold changedBy
  split
  · exact keeps _ settings
  · rfl

theorem changedBy_of_fixed
    (fixed : ∀ text, environment.text? name = some text → change text settings = settings) :
    settings.changedBy environment name change = settings := by
  unfold changedBy
  split
  · exact fixed _ ‹_›
  · rfl

end Step

section Default

variable {change : DatabaseSettings → DatabaseSettings} {settings : Settings}

theorem changeDefault_default : (settings.changeDefault change).defaultDatabase? =
    some (change (settings.defaultDatabase?.getD {})) := by
  simp [changeDefault, defaultDatabase?, database?, Keyed.find?_put]

theorem changeDefault_other {name : String} (other : name ≠ defaultAlias) :
    (settings.changeDefault change).database? name = settings.database? name := by
  simp [changeDefault, database?, Keyed.find?_put, other.symm]

theorem changedBy_default {environment : Environment} {name : String}
    (change : String → DatabaseSettings → DatabaseSettings) :
    (settings.changedBy environment name fun text => changeDefault (change text)).defaultDatabase? =
      ((environment.text? name).map fun text =>
        change text (settings.defaultDatabase?.getD {})).or settings.defaultDatabase? := by
  unfold changedBy
  split
  · rename_i text given
    rw [changeDefault_default, given]
    rfl
  · rename_i unset
    rw [unset]
    rfl

theorem changeDefault_of_fixed {database : DatabaseSettings}
    (found : settings.defaultDatabase? = some database) (fixed : change database = database) :
    settings.changeDefault change = settings := by
  rw [changeDefault, found, Option.getD_some, fixed, Keyed.put_of_find? found]

end Default

def overridden (environment : Environment) (settings : Settings) : Settings :=
  let settings := settings.changedBy environment debugVariable setDebug
  let settings := settings.changedBy environment logLevelVariable setLogLevel
  let settings := settings.changedBy environment engineVariable setEngine
  settings.changedBy environment tablePrefixVariable setTablePrefix

theorem withEnvironment_eq (environment : Environment) (settings : Settings) :
    settings.withEnvironment environment =
      ⟨environment.recordsOf Environment.overrideVariables,
        .ok (settings.overridden environment)⟩ := by
  simp only [withEnvironment, overriding_eq, Logged.bind_of_ok, overridden,
    ← Environment.recordsOf_append]
  rfl

/-- The settings `after` follow the environment where a variable is set, and are as `before` in
everything else. The database of the default alias starts from the built-in settings if there was
none. -/
structure Follow (environment : Environment) (before after : Settings) : Prop where
  debug : ∀ flag, environment.text? debugVariable = some flag →
    (after.debug = true ↔ Environment.SwitchesOn flag)
  debugKept : environment.text? debugVariable = none → after.debug = before.debug
  logLevel : after.logLevel = (environment.text? logLevelVariable).getD before.logLevel
  present : after.defaultDatabase? ≠ none ↔ before.defaultDatabase? ≠ none ∨
    environment.text? engineVariable ≠ none ∨ environment.text? tablePrefixVariable ≠ none
  engine : ∀ database, after.defaultDatabase? = some database → database.engine =
    (environment.text? engineVariable).getD (before.defaultDatabase?.getD {}).engine
  tablePrefix : ∀ database, after.defaultDatabase? = some database → database.tablePrefix =
    (environment.text? tablePrefixVariable).getD (before.defaultDatabase?.getD {}).tablePrefix
  tableOptions : ∀ database, after.defaultDatabase? = some database →
    database.tableOptions = (before.defaultDatabase?.getD {}).tableOptions
  others : ∀ name, name ≠ defaultAlias → after.database? name = before.database? name

def followedDefault (environment : Environment) (settings : Settings) : DatabaseSettings :=
  let start := settings.defaultDatabase?.getD {}
  { start with
    engine := (environment.text? engineVariable).getD start.engine
    tablePrefix := (environment.text? tablePrefixVariable).getD start.tablePrefix }

section Overridden

variable (environment : Environment) (settings : Settings)

theorem overridden_debug : (settings.overridden environment).debug =
    ((environment.text? debugVariable).map Environment.isOn).getD settings.debug := by
  rw [overridden, changedBy_keeps Settings.debug, changedBy_keeps Settings.debug,
    changedBy_keeps Settings.debug, changedBy]
  · cases environment.text? debugVariable <;> rfl
  all_goals exact fun _ _ => rfl

theorem overridden_logLevel : (settings.overridden environment).logLevel =
    (environment.text? logLevelVariable).getD settings.logLevel := by
  rw [overridden, changedBy_keeps Settings.logLevel, changedBy_keeps Settings.logLevel, changedBy]
  · cases environment.text? logLevelVariable with
    | none => exact changedBy_keeps Settings.logLevel fun _ _ => rfl
    | some level => rfl
  all_goals exact fun _ _ => rfl

theorem overridden_other {name : String} (other : name ≠ defaultAlias) :
    (settings.overridden environment).database? name = settings.database? name := by
  rw [overridden, changedBy_keeps (database? · name), changedBy_keeps (database? · name),
    changedBy_keeps (database? · name), changedBy_keeps (database? · name)]
  · exact fun _ _ => rfl
  · exact fun _ _ => rfl
  · exact fun _ _ => changeDefault_other other
  · exact fun _ _ => changeDefault_other other

theorem overridden_default : (settings.overridden environment).defaultDatabase? =
    if environment.text? engineVariable = none ∧ environment.text? tablePrefixVariable = none then
      settings.defaultDatabase?
    else some (settings.followedDefault environment) := by
  let logging := changedBy environment logLevelVariable setLogLevel
    (changedBy environment debugVariable setDebug settings)
  have kept : logging.defaultDatabase? = settings.defaultDatabase? := by
    rw [changedBy_keeps defaultDatabase?, changedBy_keeps defaultDatabase?]
    all_goals exact fun _ _ => rfl
  -- Both steps start from the built-in settings if there is no database before them.
  let withEngine := logging.changedBy environment engineVariable setEngine
  have engineStep : withEngine.defaultDatabase? = _ := changedBy_default _
  have prefixStep : (settings.overridden environment).defaultDatabase? = _ := changedBy_default _
  rw [prefixStep, engineStep, kept, followedDefault]
  cases environment.text? engineVariable <;> cases environment.text? tablePrefixVariable <;> simp

theorem eq_of_overridden_default {database : DatabaseSettings}
    (found : (settings.overridden environment).defaultDatabase? = some database) :
    database = settings.followedDefault environment := by
  rw [overridden_default] at found
  split at found
  · rename_i unset
    rw [followedDefault, found, unset.1, unset.2]
    rfl
  · exact (Option.some.inj found).symm

theorem follow_overridden : Follow environment settings (settings.overridden environment) where
  debug := by
    intro flag given
    rw [overridden_debug, given]
    exact Environment.isOn_iff
  debugKept := by
    intro unset
    rw [overridden_debug, unset]
    rfl
  logLevel := overridden_logLevel environment settings
  present := by
    rw [overridden_default]
    split
    · rename_i unset
      simp [unset]
    · rename_i set
      rw [not_and_or] at set
      exact iff_of_true nofun (.inr set)
  engine := by
    intro database found
    rw [eq_of_overridden_default environment settings found, followedDefault]
  tablePrefix := by
    intro database found
    rw [eq_of_overridden_default environment settings found, followedDefault]
  tableOptions := by
    intro database found
    rw [eq_of_overridden_default environment settings found, followedDefault]
  others := by
    intro name other
    exact overridden_other environment settings other

end Overridden

section Follow

variable {environment : Environment} {before after : Settings}
variable (follow : Follow environment before after)
include follow

theorem Follow.exists_default (cause : before.defaultDatabase? ≠ none ∨
    environment.text? engineVariable ≠ none ∨ environment.text? tablePrefixVariable ≠ none) :
    ∃ database, after.defaultDatabase? = some database :=
  Option.ne_none_iff_exists'.mp (follow.present.mpr cause)

theorem Follow.default_eq (cause : before.defaultDatabase? ≠ none ∨
    environment.text? engineVariable ≠ none ∨ environment.text? tablePrefixVariable ≠ none) :
    after.defaultDatabase? = some (before.followedDefault environment) := by
  obtain ⟨⟨engine, tablePrefix, tableOptions⟩, found⟩ := follow.exists_default cause
  obtain rfl := follow.engine _ found
  obtain rfl := follow.tablePrefix _ found
  obtain rfl := follow.tableOptions _ found
  exact found

theorem Follow.overridden_eq : after.overridden environment = after := by
  have debug : after.changedBy environment debugVariable setDebug = after := by
    apply changedBy_of_fixed
    intro flag given
    have same : Environment.isOn flag = after.debug := by
      rw [Bool.eq_iff_iff, follow.debug flag given, Environment.isOn_iff]
    rw [setDebug, same]
  have logLevel : after.changedBy environment logLevelVariable setLogLevel = after := by
    apply changedBy_of_fixed
    intro level given
    have same : after.logLevel = level := by rw [follow.logLevel, given, Option.getD_some]
    rw [setLogLevel, ← same]
  have engine : after.changedBy environment engineVariable setEngine = after := by
    apply changedBy_of_fixed
    intro engine given
    obtain ⟨database, found⟩ := follow.exists_default (.inr (.inl (by simp [given])))
    have same : database.engine = engine := by
      rw [follow.engine database found, given, Option.getD_some]
    apply changeDefault_of_fixed found
    rw [← same]
  have tablePrefix : after.changedBy environment tablePrefixVariable setTablePrefix = after := by
    apply changedBy_of_fixed
    intro text given
    obtain ⟨database, found⟩ := follow.exists_default (.inr (.inr (by simp [given])))
    have same : database.tablePrefix = text := by
      rw [follow.tablePrefix database found, given, Option.getD_some]
    apply changeDefault_of_fixed found
    rw [← same]
  rw [overridden, debug, logLevel, engine, tablePrefix]

end Follow

end Settings

namespace Toml

theorem object_of_read? {text : String} {json : Json} (found : read? text = some json) :
    ∃ members, json = .object members := by
  have gives : Reader.Gives (fun json => ∃ members, json = Json.object members) document := by
    refine .after fun _ => .after fun _ => .after fun pairs => .after fun sections => ?_
    exact .after fun _ => .after fun root => .after fun whole => .pure ⟨_, rfl⟩
  exact gives.run? found

end Toml

namespace DatabaseSettings

theorem ofItems_eq_ok {items : List Json} {database : DatabaseSettings}
    (read : ofItems items = .ok database) :
    items[0]? = some (.text database.engine) ∧ items[1]? = some (.text database.tablePrefix) := by
  cases items with
  | nil => cases read
  | cons first rest =>
      obtain ⟨engine, engineRead, later⟩ := bind_eq_ok_iff.mp read
      cases Json.asText_eq_ok_iff.mp engineRead
      clear read
      cases rest with
      | nil => cases later
      | cons second rest =>
          obtain ⟨tablePrefix, prefixRead, last⟩ := bind_eq_ok_iff.mp later
          cases Json.asText_eq_ok_iff.mp prefixRead
          clear later
          cases rest with
          | nil => cases last
          | cons third rest =>
              obtain ⟨tableOptions, _, complete⟩ := bind_eq_ok_iff.mp last
              split at complete
              · cases complete
                exact ⟨rfl, rfl⟩
              · cases complete

end DatabaseSettings

namespace Settings

open Json (Laid membersOf)

/-- What the document has for a setting of the default database: in an object by the name of the
setting, in an array by its position. -/
def defaultSetting? (overlay : List (String × Json)) (name : String) (position : Nat) :
    Option Json :=
  match Keyed.find? defaultAlias (entries overlay) with
  | some (.array items) => items[position]?
  | found => Keyed.find? name (membersOf found)

/-- The value is what the variable gives if it is set, otherwise the document's if it has one, and
otherwise the standard one. -/
def Decided {α : Type} (given : Option String) (gives : String → α → Prop) (found : Option Json)
    (encode : α → Json) (standard value : α) : Prop :=
  (∃ text, given = some text ∧ gives text value) ∨
    given = none ∧ Laid found encode standard value

structure DecidedBy (environment : Environment) (overlay : List (String × Json))
    (settings : Settings) : Prop where
  debug : Decided (environment.text? debugVariable)
    (fun flag debug => debug = true ↔ Environment.SwitchesOn flag)
    (Keyed.find? "debug" overlay) .bool true settings.debug
  logLevel : Decided (environment.text? logLevelVariable) Eq
    (Keyed.find? "log_level" overlay) .text "info" settings.logLevel
  database : ∃ database, settings.defaultDatabase? = some database ∧
    Decided (environment.text? engineVariable) Eq
      (defaultSetting? overlay "engine" 0) .text Dialect.standardEngine database.engine ∧
    Decided (environment.text? tablePrefixVariable) Eq
      (defaultSetting? overlay "table_prefix" 1) .text "" database.tablePrefix

theorem decided_of_getD {found : Option Json} {standard before after : String}
    {given : Option String} (laid : Laid found .text standard before)
    (same : after = given.getD before) : Decided given Eq found .text standard after := by
  cases given with
  | none => exact .inr ⟨rfl, same ▸ laid⟩
  | some text => exact .inl ⟨text, rfl, same.symm⟩

section Document

variable {overlay : List (String × Json)} {loaded final : Settings} {environment : Environment}
variable (settled : (Json.object overlay).Settled)
variable (read : ofMembers (Json.mergeMembers standardMembers overlay) = .ok loaded)
include settled read

theorem default_of_ofMembers : ∃ database, loaded.defaultDatabase? = some database ∧
    Laid (defaultSetting? overlay "engine" 0) .text Dialect.standardEngine database.engine ∧
    Laid (defaultSetting? overlay "table_prefix" 1) .text "" database.tablePrefix := by
  obtain ⟨_, _, _, databases⟩ := (ofMembers_over_standard_iff settled).mp read
  obtain ⟨json, laid⟩ := exists_find?_standard_alias settled
  obtain ⟨database, decoded, found⟩ := DatabaseSettings.find?_of_keyedOfMembers databases laid
  refine ⟨database, found, ?_⟩
  rw [find?_standard_alias settled] at laid
  have entrySettled (json : Json)
      (given : Keyed.find? defaultAlias (entries overlay) = some json) : json.Settled :=
    settled_of_entry settled given
  unfold defaultSetting?
  -- An array takes the place of the defaults; anything else has to be an object laid over them.
  split
  · rename_i items given
    rw [given] at laid
    cases laid
    obtain ⟨engine, tablePrefix⟩ := DatabaseSettings.ofItems_eq_ok decoded
    exact ⟨.inl engine, .inl tablePrefix⟩
  · rename_i noArray
    obtain ⟨_, overridden⟩ :=
      (DatabaseSettings.ofJson_over_standard_iff laid noArray entrySettled).mp decoded
    exact ⟨overridden.engine, overridden.tablePrefix⟩

theorem decidedBy_of_follow (follow : Follow environment loaded final) :
    DecidedBy environment overlay final := by
  obtain ⟨debug, logLevel, _, _⟩ := (ofMembers_over_standard_iff settled).mp read
  obtain ⟨start, found, engine, tablePrefix⟩ := default_of_ofMembers settled read
  refine ⟨?debug, decided_of_getD logLevel follow.logLevel, ?database⟩
  case debug =>
    cases given : environment.text? debugVariable with
    | none =>
        rw [← follow.debugKept given] at debug
        exact .inr ⟨rfl, debug⟩
    | some flag => exact .inl ⟨flag, rfl, follow.debug flag given⟩
  case database =>
    obtain ⟨database, last⟩ := follow.exists_default (.inl (by simp [found]))
    have engineKept := follow.engine database last
    have prefixKept := follow.tablePrefix database last
    rw [found] at engineKept prefixKept
    exact ⟨database, last, decided_of_getD engine engineKept,
      decided_of_getD tablePrefix prefixKept⟩

end Document

theorem ofTomlFileWithEnvironment_eq {folder : Folder} {path document : String} {loaded : Settings}
    (environment : Environment) (read : folder.read path = .ok document)
    (loads : ofDocument .toml document = .ok loaded) :
    ofTomlFileWithEnvironment environment folder path =
      ⟨.readingFile path :: environment.recordsOf Environment.overrideVariables,
        .ok (loaded.overridden environment)⟩ := by
  have file : ofFile .toml folder path = ⟨[.readingFile path], .ok loaded⟩ := by
    rw [ofFile, read]
    change (⟨[.readingFile path], ofDocument .toml document⟩ : Logged Settings) = _
    rw [loads]
  rw [ofTomlFileWithEnvironment, file, Logged.bind_of_ok, withEnvironment_eq]
  rfl

/-- The overrides never fail and tell the log of each variable that is set, in order; settings that
follow the environment stay as they are; and over a document that loads, each of the four settings
is decided by the environment, then the document, then the defaults. -/
theorem withEnvironment_overrides (environment : Environment) :
    (∀ name text, environment.text? name = some text ↔
      Keyed.find? name environment.entries = some text.toUTF8) ∧
    (∀ before : Settings, ∃ after,
      before.withEnvironment environment =
        ⟨environment.recordsOf Environment.overrideVariables, .ok after⟩ ∧
      Follow environment before after ∧ (after.withEnvironment environment).outcome = .ok after) ∧
    ∀ (folder : Folder) (path document : String) (loaded : Settings),
      folder.read path = .ok document → ofDocument .toml document = .ok loaded →
      ∃ overlay final, Toml.read? document = some (.object overlay) ∧
        ofTomlFileWithEnvironment environment folder path =
          ⟨.readingFile path :: environment.recordsOf Environment.overrideVariables, .ok final⟩ ∧
        Follow environment loaded final ∧ DecidedBy environment overlay final := by
  refine ⟨fun name text => Environment.text?_eq_some_iff, ?overrides, ?document⟩
  case overrides =>
    intro before
    have follow := follow_overridden environment before
    refine ⟨before.overridden environment, withEnvironment_eq environment before, follow, ?_⟩
    rw [withEnvironment_eq, follow.overridden_eq]
  case document =>
    intro folder path document loaded read loads
    obtain ⟨json, parsed, layers⟩ := bind_eq_ok_iff.mp loads
    rw [Error.ifNone_eq_ok_iff] at parsed
    obtain ⟨overlay, rfl⟩ := Toml.object_of_read? parsed
    have settled : (Json.object overlay).Settled := Toml.settled_of_read? parsed
    have members : ofMembers (Json.mergeMembers standardMembers overlay) = .ok loaded := by
      rw [layered_eq_ok_iff, toJson_standard, Json.merge, ofJson] at layers
      exact layers
    have follow := follow_overridden environment loaded
    exact ⟨overlay, _, parsed, ofTomlFileWithEnvironment_eq environment read loads, follow,
      decidedBy_of_follow settled members follow⟩

def replicaEnvironment : Environment where
  entries :=
    [("CF_TABLE_PREFIX", "".toUTF8), ("CF_DB_ENGINE", "sqlite".toUTF8),
      ("CF_LOG_LEVEL", "warn".toUTF8), ("CF_DEBUG", "YES".toUTF8)]

def strayEnvironment : Environment where
  entries :=
    [("CF_DEBUG", "No".toUTF8), ("CF_LOG_LEVEL", ⟨#[0xff]⟩), ("CF_TABLE_PREFIX", "a_".toUTF8)]

def quietToml : String := "debug = false\n" ++ replicaToml

def quietSettings : Settings where
  debug := false
  databases := replicaSettings.databases

def replicaFolder : Folder where
  entries := [("replica.toml", .file quietToml.toUTF8)]

theorem read_replicaFolder : replicaFolder.read "replica.toml" = .ok quietToml := by
  have decoded : String.fromUTF8? quietToml.toUTF8 = some quietToml :=
    Environment.fromUTF8?_eq_some_iff.mpr rfl
  simp only [Folder.read, replicaFolder, Keyed.find?, if_true, decoded]

theorem ofDocument_quietToml : ofDocument .toml quietToml = .ok quietSettings := by
  have parsed : readDocument? .toml quietToml = some (.object [("debug", .bool false),
      ("color", .int 1), ("databases", .object replicaEntries)]) := by
    decide +kernel
  rw [ofDocument_of_read parsed]
  rfl

theorem withEnvironment_overrides_replica :
    (∃ final,
      ofTomlFileWithEnvironment replicaEnvironment replicaFolder "replica.toml" =
        ⟨[.readingFile "replica.toml", .overriding "CF_DEBUG", .overriding "CF_LOG_LEVEL",
          .overriding "CF_DB_ENGINE", .overriding "CF_TABLE_PREFIX"], .ok final⟩ ∧
      final.debug = true ∧ final.logLevel = "warn" ∧
      final.database? "default" =
        some { engine := "sqlite", tablePrefix := "", tableOptions := none } ∧
      final.database? "old" = some { engine := "e" }) ∧
    ∃ after,
      withEnvironment strayEnvironment { databases := [("old", {})] } =
        ⟨[.overriding "CF_DEBUG", .overriding "CF_TABLE_PREFIX"], .ok after⟩ ∧
      after.debug = false ∧ after.logLevel = "info" ∧
      after.database? "default" =
        some { engine := "cf_rs.db.backends.sqlite3", tablePrefix := "a_", tableOptions := none } ∧
      after.database? "old" = some {} ∧
      (after.withEnvironment strayEnvironment).outcome = .ok after := by
  obtain ⟨_, _, documents⟩ := withEnvironment_overrides replicaEnvironment
  obtain ⟨_, overrides, _⟩ := withEnvironment_overrides strayEnvironment
  refine ⟨?replica, ?stray⟩
  case replica =>
    obtain ⟨_, final, _, outcome, follow, _⟩ :=
      documents _ _ _ _ read_replicaFolder ofDocument_quietToml
    have flag : replicaEnvironment.text? debugVariable = some "YES" :=
      Environment.text?_eq_some_iff.mpr rfl
    have level : replicaEnvironment.text? logLevelVariable = some "warn" :=
      Environment.text?_eq_some_iff.mpr rfl
    have engine : replicaEnvironment.text? engineVariable = some "sqlite" :=
      Environment.text?_eq_some_iff.mpr rfl
    have tablePrefix : replicaEnvironment.text? tablePrefixVariable = some "" :=
      Environment.text?_eq_some_iff.mpr rfl
    have records : replicaEnvironment.recordsOf Environment.overrideVariables =
        [.overriding "CF_DEBUG", .overriding "CF_LOG_LEVEL", .overriding "CF_DB_ENGINE",
          .overriding "CF_TABLE_PREFIX"] := rfl
    rw [records] at outcome
    refine ⟨final, outcome, ?debug, ?logLevel, ?default, follow.others "old" (by decide)⟩
    case debug => exact (follow.debug "YES" flag).mpr (Environment.isOn_iff.mp (by decide))
    case logLevel => rw [follow.logLevel, level, Option.getD_some]
    case default =>
      have overridden := follow.default_eq (.inl (by decide))
      rw [followedDefault, engine, tablePrefix] at overridden
      exact overridden
  case stray =>
    have flag : strayEnvironment.text? debugVariable = some "No" :=
      Environment.text?_eq_some_iff.mpr rfl
    have level : strayEnvironment.text? logLevelVariable = none := rfl
    have engine : strayEnvironment.text? engineVariable = none := rfl
    have tablePrefix : strayEnvironment.text? tablePrefixVariable = some "a_" :=
      Environment.text?_eq_some_iff.mpr rfl
    have records : strayEnvironment.recordsOf Environment.overrideVariables =
        [.overriding "CF_DEBUG", .overriding "CF_TABLE_PREFIX"] := rfl
    obtain ⟨after, outcome, follow, again⟩ := overrides { databases := [("old", {})] }
    rw [records] at outcome
    refine ⟨after, outcome, ?debug, ?logLevel, ?default, follow.others "old" (by decide), again⟩
    case debug =>
      rw [← Bool.not_eq_true, follow.debug "No" flag, ← Environment.isOn_iff]
      decide
    case logLevel => rw [follow.logLevel, level, Option.getD_none]
    case default =>
      have created := follow.default_eq (.inr (.inr (by simp [tablePrefix])))
      rw [followedDefault, engine, tablePrefix] at created
      exact created

end Settings

end BoundSql
