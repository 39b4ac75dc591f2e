import BoundSql.Proofs.Layering
import BoundSql.Proofs.SettledDocument

/-! The settings of one database as a document has them, and as the document lays them over the
defaults. What is read in full needs an engine and a table prefix; over the defaults nothing is
needed, and what is there has to be of the right type all the same. -/

namespace BoundSql

namespace Json

def ofOptionalText : Option String → Json
  | some content => .text content
  | none => .null

theorem asBool_eq_ok_iff {json : Json} {content : Bool} :
    json.asBool = .ok content ↔ json = .bool content := by
  cases json <;> simp [asBool]

theorem asText_eq_ok_iff {json : Json} {content : String} :
    json.asText = .ok content ↔ json = .text content := by
  cases json <;> simp [asText]

theorem asOptionalText_eq_ok_iff {json : Json} {content : Option String} :
    json.asOptionalText = .ok content ↔ json = ofOptionalText content := by
  cases json <;> cases content <;> simp [asOptionalText, ofOptionalText]

theorem ofOptionalText_injective (one other : Option String)
    (same : ofOptionalText one = ofOptionalText other) : one = other := by
  cases one <;> cases other <;> simp_all [ofOptionalText]

theorem required_eq_ok_iff {name : String} {members : List (String × Json)} {content : Json} :
    required name members = .ok content ↔ Keyed.find? name members = some content := by
  cases found : Keyed.find? name members <;> simp [required, found]

theorem discard_eq_ok_iff {ε α : Type} {outcome : Except ε α} :
    discard outcome = .ok () ↔ ∃ result, outcome = .ok result := by
  cases outcome <;> simp [discard, Functor.mapConst, Except.map]

theorem checkMembers_eq_ok_iff {check : String → Json → Except Mismatch Unit}
    {members : List (String × Json)} :
    checkMembers check members = .ok () ↔
      ∀ member ∈ members, check member.1 member.2 = .ok () := by
  induction members with
  | nil => simp [checkMembers]
  | cons member rest ih =>
      obtain ⟨name, content⟩ := member
      rw [checkMembers, bind_eq_ok_iff, List.forall_mem_cons, ← ih]
      exact ⟨fun ⟨(), passed⟩ => passed, fun passed => ⟨(), passed⟩⟩

/-- What the document has, or the standard value where it has nothing. -/
def Laid {α : Type} (found : Option Json) (encode : α → Json) (standard value : α) : Prop :=
  found = some (encode value) ∨ found = none ∧ value = standard

@[simp] theorem laid_some_iff {α : Type} {json : Json} {encode : α → Json} {standard value : α} :
    Laid (some json) encode standard value ↔ json = encode value := by
  simp [Laid]

theorem exists_laid_iff {α : Type} {found : Option Json} {encode : α → Json} {standard : α} :
    (∃ value, Laid found encode standard value) ↔
      ∀ json ∈ found, ∃ value, json = encode value := by
  cases found <;> simp [Laid]

theorem getD_eq_encode_iff {α : Type} {found : Option Json} {encode : α → Json}
    {standard value : α} (injective : ∀ one other, encode one = encode other → one = other) :
    found.getD (encode standard) = encode value ↔ Laid found encode standard value := by
  cases found with
  | none =>
      simp only [Laid, reduceCtorEq, false_or, true_and, Option.getD_none]
      exact ⟨fun same => (injective _ _ same).symm, fun same => same ▸ rfl⟩
  | some json => simp [Laid]

theorem getD_null_iff {found : Option Json} {content : Option String} :
    found.getD .null = ofOptionalText content ↔ Laid found ofOptionalText none content :=
  @getD_eq_encode_iff _ found ofOptionalText none content ofOptionalText_injective

theorem find?_over_scalar {name : String} {base overlay : List (String × Json)} {standard : Json}
    (unique : (Keyed.keys overlay).Nodup) (known : Keyed.find? name base = some standard)
    (scalar : ∀ members, standard ≠ .object members) :
    Keyed.find? name (mergeMembers base overlay) =
      some ((Keyed.find? name overlay).getD standard) := by
  rw [find?_mergeMembers name base unique, known, layered?_of_not_object scalar]

theorem find?_over_text_iff {name standard content : String} {base overlay : List (String × Json)}
    (unique : (Keyed.keys overlay).Nodup)
    (known : Keyed.find? name base = some (.text standard)) :
    Keyed.find? name (mergeMembers base overlay) = some (.text content) ↔
      Laid (Keyed.find? name overlay) .text standard content := by
  rw [find?_over_scalar unique known (by simp), Option.some_inj]
  exact getD_eq_encode_iff fun _ _ => text.inj

section

variable {keep : String → Bool} {inner : String → Json → Json}

theorem checkMembers_restrictMembers {check : String → Json → Except Mismatch Unit}
    (unread : ∀ name content, keep name = false → check name content = .ok ())
    (same : ∀ name content, check name (inner name content) = check name content)
    (members : List (String × Json)) :
    checkMembers check (restrictMembers keep inner members) = checkMembers check members := by
  induction members with
  | nil => rfl
  | cons member rest ih =>
      obtain ⟨name, content⟩ := member
      by_cases kept : keep name
      · simp [restrictMembers, checkMembers, kept, same, ih]
      · rw [Bool.not_eq_true] at kept
        simp [restrictMembers, checkMembers, kept, unread name content kept, ih, bind, Except.bind]

theorem find?_restrictMembers_of_same {name : String} (kept : keep name = true)
    (same : ∀ content, inner name content = content) (members : List (String × Json)) :
    Keyed.find? name (restrictMembers keep inner members) = Keyed.find? name members := by
  rw [find?_restrictMembers, if_pos kept]
  cases Keyed.find? name members <;> simp [same]

end

theorem settled_membersOf {found : Option Json} (settled : ∀ json ∈ found, json.Settled) :
    (object (membersOf found)).Settled := by
  match found with
  | some (.object members) => exact settled (.object members) rfl
  | none | some .null | some (.bool _) | some (.int _) | some (.double _) | some (.text _)
  | some (.array _) => exact ⟨List.nodup_nil, trivial⟩

end Json

namespace DatabaseSettings

open Json (Laid ofOptionalText)

structure Written (database : DatabaseSettings) (members : List (String × Json)) : Prop where
  engine : Keyed.find? "engine" members = some (.text database.engine)
  tablePrefix : Keyed.find? "table_prefix" members = some (.text database.tablePrefix)
  tableOptions :
    Laid (Keyed.find? "table_options" members) ofOptionalText none database.tableOptions

structure Overridden (database : DatabaseSettings) (members : List (String × Json)) : Prop where
  engine :
    Laid (Keyed.find? "engine" members) .text Dialect.standardEngine database.engine
  tablePrefix : Laid (Keyed.find? "table_prefix" members) .text "" database.tablePrefix
  tableOptions :
    Laid (Keyed.find? "table_options" members) ofOptionalText none database.tableOptions

structure Fits (members : List (String × Json)) : Prop where
  engine : ∀ json ∈ Keyed.find? "engine" members, ∃ content, json = .text content
  tablePrefix : ∀ json ∈ Keyed.find? "table_prefix" members, ∃ content, json = .text content
  tableOptions : ∀ json ∈ Keyed.find? "table_options" members,
    ∃ content, json = ofOptionalText content

theorem checkMember_of_written {members : List (String × Json)} {database : DatabaseSettings}
    (unique : (Keyed.keys members).Nodup) (written : Written database members) :
    ∀ member ∈ members, checkMember member.1 member.2 = .ok () := by
  rintro ⟨name, content⟩ member
  have found : Keyed.find? name members = some content := Keyed.find?_of_mem unique member
  dsimp only [checkMember]
  split
  · cases found.symm.trans written.engine
    rfl
  · cases found.symm.trans written.tablePrefix
    rfl
  · rcases written.tableOptions with given | ⟨missing, _⟩
    · cases found.symm.trans given
      exact Json.discard_eq_ok_iff.mpr ⟨_, Json.asOptionalText_eq_ok_iff.mpr rfl⟩
    · cases found.symm.trans missing
  · rfl

theorem ofMembers_eq_ok_iff {members : List (String × Json)} {database : DatabaseSettings}
    (unique : (Keyed.keys members).Nodup) :
    ofMembers members = .ok database ↔ Written database members := by
  simp only [ofMembers, bind_eq_ok_iff, Json.required_eq_ok_iff, Json.asText_eq_ok_iff,
    Json.asOptionalText_eq_ok_iff, Json.getD_null_iff]
  constructor
  · rintro ⟨_, _, _, engine, _, tablePrefix, _, rfl, _, rfl, _, given, same⟩
    cases same
    exact ⟨engine, tablePrefix, given⟩
  · intro written
    have checked := Json.checkMembers_eq_ok_iff.mpr (checkMember_of_written unique written)
    exact ⟨(), checked, _, written.engine, _, written.tablePrefix, _, rfl, _, rfl, _,
      written.tableOptions, rfl⟩

theorem exists_written_iff {members : List (String × Json)} :
    (∃ database, Written database members) ↔
      Fits members ∧ "engine" ∈ Keyed.keys members ∧ "table_prefix" ∈ Keyed.keys members := by
  constructor
  · rintro ⟨database, written⟩
    refine ⟨⟨?_, ?_, Json.exists_laid_iff.mp ⟨_, written.tableOptions⟩⟩,
      Keyed.mem_keys_of_find? written.engine, Keyed.mem_keys_of_find? written.tablePrefix⟩
    · intro json found
      exact ⟨_, Option.some.inj (found.symm.trans written.engine)⟩
    · intro json found
      exact ⟨_, Option.some.inj (found.symm.trans written.tablePrefix)⟩
  · rintro ⟨fits, hasEngine, hasPrefix⟩
    obtain ⟨engineJson, foundEngine⟩ := Keyed.mem_keys_iff.mp hasEngine
    obtain ⟨engine, rfl⟩ := fits.engine engineJson foundEngine
    obtain ⟨prefixJson, foundPrefix⟩ := Keyed.mem_keys_iff.mp hasPrefix
    obtain ⟨tablePrefix, rfl⟩ := fits.tablePrefix prefixJson foundPrefix
    obtain ⟨tableOptions, laid⟩ := Json.exists_laid_iff.mpr fits.tableOptions
    exact ⟨⟨engine, tablePrefix, tableOptions⟩, foundEngine, foundPrefix, laid⟩

theorem exists_overridden_iff {members : List (String × Json)} :
    (∃ database, Overridden database members) ↔ Fits members := by
  constructor
  · rintro ⟨database, overridden⟩
    exact ⟨Json.exists_laid_iff.mp ⟨_, overridden.engine⟩,
      Json.exists_laid_iff.mp ⟨_, overridden.tablePrefix⟩,
      Json.exists_laid_iff.mp ⟨_, overridden.tableOptions⟩⟩
  · intro fits
    obtain ⟨engine, laidEngine⟩ := Json.exists_laid_iff.mpr fits.engine
    obtain ⟨tablePrefix, laidPrefix⟩ := Json.exists_laid_iff.mpr fits.tablePrefix
    obtain ⟨tableOptions, laidOptions⟩ := Json.exists_laid_iff.mpr fits.tableOptions
    exact ⟨⟨engine, tablePrefix, tableOptions⟩, laidEngine, laidPrefix, laidOptions⟩

def standardMembers : List (String × Json) :=
  [("engine", .text Dialect.standardEngine), ("table_prefix", .text ""), ("table_options", .null)]

theorem toJson_standard : toJson {} = .object standardMembers := rfl

theorem written_over_standard_iff {members : List (String × Json)} {database : DatabaseSettings}
    (unique : (Keyed.keys members).Nodup) :
    Written database (Json.mergeMembers standardMembers members) ↔ Overridden database members := by
  have options : Laid (Keyed.find? "table_options" (Json.mergeMembers standardMembers members))
      ofOptionalText none database.tableOptions ↔
        Laid (Keyed.find? "table_options" members) ofOptionalText none database.tableOptions := by
    rw [Json.find?_over_scalar unique rfl (by simp), Json.laid_some_iff, Json.getD_null_iff]
  constructor
  · intro written
    exact ⟨(Json.find?_over_text_iff unique rfl).mp written.engine,
      (Json.find?_over_text_iff unique rfl).mp written.tablePrefix,
      options.mp written.tableOptions⟩
  · intro overridden
    exact ⟨(Json.find?_over_text_iff unique rfl).mpr overridden.engine,
      (Json.find?_over_text_iff unique rfl).mpr overridden.tablePrefix,
      options.mpr overridden.tableOptions⟩

theorem ofJson_eq_ok_iff {json : Json} {database : DatabaseSettings}
    (noArray : ∀ items, json ≠ .array items) (settled : json.Settled) :
    ofJson json = .ok database ↔
      ∃ members, json = .object members ∧ database.Written members := by
  cases json with
  | object members =>
      have unique := (Json.settled_object_iff.mp settled).1
      simp [ofJson, ofMembers_eq_ok_iff unique]
  | array items => exact absurd rfl (noArray items)
  | _ => simp [ofJson]

theorem keys_of_keyedOfMembers {entries : List (String × Json)} {databases : Keyed DatabaseSettings}
    (read : keyedOfMembers entries = .ok databases) :
    Keyed.keys databases = Keyed.keys entries := by
  induction entries generalizing databases with
  | nil =>
      cases read
      rfl
  | cons entry rest ih =>
      obtain ⟨database, _, later⟩ := bind_eq_ok_iff.mp read
      obtain ⟨others, restRead, same⟩ := bind_eq_ok_iff.mp later
      cases same
      have names := ih restRead
      simp only [Keyed.keys] at names
      simp [Keyed.keys, names]

theorem find?_of_keyedOfMembers {entries : List (String × Json)}
    {databases : Keyed DatabaseSettings} {name : String} {json : Json}
    (read : keyedOfMembers entries = .ok databases)
    (found : Keyed.find? name entries = some json) :
    ∃ database, ofJson json = .ok database ∧ Keyed.find? name databases = some database := by
  induction entries generalizing databases with
  | nil => cases found
  | cons entry rest ih =>
      obtain ⟨other, first⟩ := entry
      obtain ⟨database, firstRead, later⟩ := bind_eq_ok_iff.mp read
      obtain ⟨others, restRead, same⟩ := bind_eq_ok_iff.mp later
      cases same
      by_cases wanted : other = name
      · have given : first = json := by simpa [Keyed.find?, wanted] using found
        exact ⟨database, given ▸ firstRead, by simp [Keyed.find?, wanted]⟩
      · simpa [Keyed.find?, wanted] using ih restRead (by simpa [Keyed.find?, wanted] using found)

theorem exists_keyedOfMembers_iff {entries : List (String × Json)} :
    (∃ databases, keyedOfMembers entries = .ok databases) ↔
      ∀ entry ∈ entries, ∃ database, ofJson entry.2 = .ok database := by
  induction entries with
  | nil => simp [keyedOfMembers]
  | cons entry rest ih =>
      obtain ⟨name, json⟩ := entry
      rw [List.forall_mem_cons, ← ih]
      constructor
      · rintro ⟨databases, read⟩
        obtain ⟨database, firstRead, later⟩ := bind_eq_ok_iff.mp read
        obtain ⟨others, restRead, _⟩ := bind_eq_ok_iff.mp later
        exact ⟨⟨database, firstRead⟩, others, restRead⟩
      · rintro ⟨⟨database, firstRead⟩, others, restRead⟩
        exact ⟨(name, database) :: others,
          bind_eq_ok_iff.mpr ⟨_, firstRead, bind_eq_ok_iff.mpr ⟨_, restRead, rfl⟩⟩⟩

theorem keyedOfJson_eq_ok_iff {json : Json} {databases : Keyed DatabaseSettings} :
    keyedOfJson json = .ok databases ↔
      ∃ members, json = .object members ∧ keyedOfMembers members = .ok databases := by
  cases json <;> simp [keyedOfJson]

theorem ofJson_over_standard_iff {found : Option Json} {json : Json} {database : DatabaseSettings}
    (laid : Json.layered? (some (toJson {})) found = some json)
    (noArray : ∀ items, found ≠ some (.array items)) (settled : ∀ above ∈ found, above.Settled) :
    ofJson json = .ok database ↔
      (∀ above ∈ found, ∃ members, above = .object members) ∧
        database.Overridden (Json.membersOf found) := by
  have unique := (Json.settled_object_iff.mp (Json.settled_membersOf settled)).1
  have merged : ofMembers (Json.mergeMembers standardMembers (Json.membersOf found)) =
      .ok database ↔ database.Overridden (Json.membersOf found) := by
    rw [ofMembers_eq_ok_iff (Json.keys_mergeMembers_nodup (by decide)),
      written_over_standard_iff unique]
  rw [toJson_standard] at laid
  -- Only an object is laid over the defaults member by member, anything else takes their place.
  match found with
  | none =>
      cases laid
      simpa [ofJson, Json.membersOf, Json.mergeMembers] using merged
  | some (.object members) =>
      cases laid
      simpa [ofJson, Json.membersOf, Json.overlaid, Json.merge] using merged
  | some (.array items) => exact absurd rfl (noArray items)
  | some .null | some (.bool _) | some (.int _) | some (.double _) | some (.text _) =>
      cases laid
      simp [ofJson, Json.overlaid, Json.merge]

def isField (name : String) : Bool :=
  name == "engine" || name == "table_prefix" || name == "table_options"

def known : Json → Json := Json.restrict isField fun _ json => json

theorem ofJson_known (json : Json) : ofJson (known json) = ofJson json := by
  cases json with
  | object members =>
      have unread (name : String) (content : Json) (other : isField name = false) :
          checkMember name content = .ok () := by
        unfold checkMember
        split <;> first | rfl | exact absurd other (by decide)
      have found {name : String} (field : isField name = true) :
          Keyed.find? name (Json.restrictMembers isField (fun _ json => json) members) =
            Keyed.find? name members :=
        Json.find?_restrictMembers_of_same field (fun content => rfl) members
      simp only [known, Json.restrict, ofJson, ofMembers, Json.required]
      rw [Json.checkMembers_restrictMembers unread fun _ _ => rfl, found (by decide),
        found (by decide), found (by decide)]
  | _ => rfl

def knownEntries : Json → Json := Json.restrict (fun _ => true) fun _ => known

theorem keyedOfJson_knownEntries (json : Json) :
    keyedOfJson (knownEntries json) = keyedOfJson json := by
  cases json with
  | object members =>
      change keyedOfMembers (Json.restrictMembers _ _ members) = keyedOfMembers members
      induction members with
      | nil => rfl
      | cons member rest ih =>
          simp [Json.restrictMembers, keyedOfMembers, ofJson_known, ih]
  | _ => rfl

end DatabaseSettings

end BoundSql
