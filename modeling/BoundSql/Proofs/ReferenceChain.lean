import BoundSql.Schema.Resolution

/-! Column types at the end of a chain of references. A chain goes from a descriptor to the
identity column of the entity it references, from there on in the same way, and the definition of
the column is decided by the descriptor at its end. -/

namespace BoundSql

def Logged.preceded {α : Type} (records : List Record) (logged : Logged α) : Logged α :=
  ⟨records ++ logged.records, logged.outcome⟩

def Logged.FailsWith {α : Type} (logged : Logged α) (error : Error) (category : Category) : Prop :=
  logged.outcome = .error error ∧ error.category = category

namespace Schema

/-- The name of the identity column, given or else that of the first primary column. -/
inductive Identifies (schema : Schema) : String → Prop
  | given {name : String} : schema.explicitIdentity = some name → Identifies schema name
  | firstPrimary {name : String} {descriptor : Descriptor}
      {before after : List (String × Descriptor)} : schema.explicitIdentity = none →
      schema.columns = before ++ (name, descriptor) :: after → descriptor.primary = true →
      (∀ column ∈ before, column.2.primary = false) → Identifies schema name

def Declares (schema : Schema) (name : String) (descriptor : Descriptor) : Prop :=
  ∃ before after, schema.columns = before ++ (name, descriptor) :: after ∧
    ∀ column ∈ before, column.1 ≠ name

theorem identity?_eq_some_iff {schema : Schema} {name : String} :
    schema.identity? = some name ↔ schema.Identifies name := by
  cases given : schema.explicitIdentity with
  | some explicit =>
      simp only [identity?, given, Option.some.injEq]
      constructor
      · rintro rfl
        exact .given given
      · intro identifies
        cases identifies with
        | given other => simpa [given] using other
        | firstPrimary missing _ _ _ => simp [given] at missing
  | none =>
      simp only [identity?, given, Option.map_eq_some_iff, List.find?_eq_some_iff_append]
      constructor
      · rintro ⟨⟨found, descriptor⟩, ⟨primary, before, after, columns, others⟩, rfl⟩
        exact .firstPrimary given columns primary (by simpa using others)
      · intro identifies
        cases identifies with
        | given other => simp [given] at other
        | @firstPrimary descriptor before after _ columns primary others =>
            refine ⟨(name, descriptor), ⟨primary, before, after, columns, ?_⟩, rfl⟩
            simpa using others

theorem descriptor?_eq_some_iff {schema : Schema} {name : String} {descriptor : Descriptor} :
    schema.descriptor? name = some descriptor ↔ schema.Declares name descriptor := by
  simp only [descriptor?, Keyed.find?_eq, Option.map_eq_some_iff, List.find?_eq_some_iff_append]
  constructor
  · rintro ⟨⟨found, same⟩, ⟨named, before, after, columns, others⟩, rfl⟩
    obtain rfl : found = name := by simpa using named
    exact ⟨before, after, columns, by simpa using others⟩
  · rintro ⟨before, after, columns, others⟩
    exact ⟨(name, descriptor), ⟨by simp, before, after, columns, by simpa using others⟩, rfl⟩

theorem identityColumn_of_declared {schema : Schema} {identity : String} {descriptor : Descriptor}
    (identifies : schema.Identifies identity) (declares : schema.Declares identity descriptor)
    (entity : String) : schema.identityColumn entity = .ok (identity, descriptor) := by
  rw [← identity?_eq_some_iff] at identifies
  rw [← descriptor?_eq_some_iff] at declares
  simp only [identityColumn, identifies, declares]

theorem identityColumn_of_unidentified {schema : Schema} (missing : schema.explicitIdentity = none)
    (others : ∀ column ∈ schema.columns, column.2.primary = false) (entity : String) :
    schema.identityColumn entity = .error (.entityWithoutIdentity entity) := by
  have none : schema.identity? = none := by
    simpa [identity?, missing] using others
  simp only [identityColumn, none]

theorem identityColumn_of_undeclared {schema : Schema} {identity : String}
    (identifies : schema.Identifies identity)
    (others : ∀ column ∈ schema.columns, column.1 ≠ identity) (entity : String) :
    schema.identityColumn entity = .error (.identityWithoutType identity entity) := by
  rw [← identity?_eq_some_iff] at identifies
  have none : schema.descriptor? identity = none := by
    simpa [descriptor?, Keyed.find?_eq] using others
  simp only [identityColumn, identifies, none]

end Schema

namespace Registry

section Follow

variable {registry : Registry} {visited : List String} {descriptor : Descriptor} {entity : String}

theorem follow_atomic {columnType : ColumnType} (typed : descriptor.base = .atomic columnType) :
    registry.follow visited descriptor = pure (columnType, descriptor) := by
  rw [follow]
  split
  · rename_i found base
    rw [typed, BaseType.atomic.injEq] at base
    rw [base]
  · rename_i found base
    simp [typed] at base

variable (reference : descriptor.base = .reference entity)

include reference

theorem follow_again (seen : entity ∈ visited) : registry.follow visited descriptor =
    .ofExcept (.error (.referenceCycle (visited ++ [entity]))) := by
  rw [follow]
  simp only [reference, seen, dite_true]

theorem follow_unknown (fresh : entity ∉ visited) (unknown : registry.schema? entity = none) :
    registry.follow visited descriptor = .ofExcept (.error (.unknownEntity entity)) := by
  rw [follow]
  simp only [reference, fresh, dite_false]
  split
  · rfl
  · rename_i schema found
    simp [unknown] at found

theorem follow_known (fresh : entity ∉ visited) {schema : Schema}
    (known : registry.schema? entity = some schema) :
    registry.follow visited descriptor =
      (Logged.ofExcept (schema.identityColumn entity)).andThen fun target =>
        (Logged.emit (.following entity target.1)).andThen fun _ =>
          registry.follow (visited ++ [entity]) target.2.withoutKey := by
  rw [follow]
  simp only [reference, fresh, dite_false]
  split
  · rename_i missing
    simp [known] at missing
  · rename_i found same
    rw [known, Option.some.injEq] at same
    subst same
    cases schema.identityColumn entity <;> rfl

theorem follow_withoutKey :
    registry.follow visited descriptor.withoutKey = registry.follow visited descriptor := by
  have same : descriptor.withoutKey.base = .reference entity := reference
  by_cases seen : entity ∈ visited
  · rw [follow_again reference seen, follow_again same seen]
  · cases known : registry.schema? entity with
    | none => rw [follow_unknown reference seen known, follow_unknown same seen known]
    | some schema => rw [follow_known reference seen known, follow_known same seen known]

end Follow

/-- References followed from a descriptor to another, each with its entity and the identity column
of that entity. -/
inductive Chain (registry : Registry) : Descriptor → List (String × String) → Descriptor → Prop
  | ended (descriptor : Descriptor) : Chain registry descriptor [] descriptor
  | hop {start next last : Descriptor} {entity identity : String} {schema : Schema}
      {hops : List (String × String)} : start.base = .reference entity →
      registry.schema? entity = some schema → schema.Identifies identity →
      schema.Declares identity next → Chain registry next hops last →
      Chain registry start ((entity, identity) :: hops) last

def reached : List (String × String) → Descriptor → Descriptor
  | [], descriptor => descriptor
  | _ :: _, descriptor => descriptor.withoutKey

@[simp] theorem base_reached (hops : List (String × String)) (descriptor : Descriptor) :
    (reached hops descriptor).base = descriptor.base := by
  cases hops <;> rfl

def followed (hops : List (String × String)) : List Record :=
  hops.map fun hop => .following hop.1 hop.2

/-- Along a chain that meets no entity twice, every reference is told to the log, and the rest
happens at the end of the chain. -/
theorem follow_chain {registry : Registry} {start last : Descriptor}
    {hops : List (String × String)} (chain : registry.Chain start hops last)
    (visited : List String) (distinct : (visited ++ hops.map Prod.fst).Nodup) :
    registry.follow visited start =
      (registry.follow (visited ++ hops.map Prod.fst) (reached hops last)).preceded
        (followed hops) := by
  induction chain generalizing visited with
  | ended descriptor => simp [reached, followed, Logged.preceded]
  | @hop start next last entity identity schema hops reference known identifies declares rest ih =>
      have fresh : entity ∉ visited := by
        intro seen
        exact (List.nodup_append.mp distinct).2.2 entity seen entity (by simp) rfl
      have regrouped : (visited ++ [entity]) ++ hops.map Prod.fst =
          visited ++ ((entity, identity) :: hops).map Prod.fst := by simp
      have following := ih (visited ++ [entity]) (by rw [regrouped]; exact distinct)
      -- `next` loses its key, which shows only if the chain ends there
      have onward : registry.follow (visited ++ [entity]) next.withoutKey =
          (registry.follow (visited ++ [entity] ++ hops.map Prod.fst)
            last.withoutKey).preceded (followed hops) := by
        cases rest with
        | ended => simp [followed, Logged.preceded]
        | hop further _ _ _ _ => rw [follow_withoutKey further, following, reached]
      rw [follow_known reference fresh known,
        Schema.identityColumn_of_declared identifies declares entity]
      simp only [Logged.andThen, Logged.ofExcept, Logged.emit, onward, regrouped, reached,
        Logged.preceded, followed, List.map_cons, List.cons_append, List.nil_append]

end Registry

namespace Dialect

def keyTokens (dialect : Dialect) : List (String × String) → Descriptor → List String
  | [], descriptor =>
      (if descriptor.primary then [dialect.primaryKey] else []) ++
      (if descriptor.auto then [dialect.autoIncrement] else [])
  | _ :: _, _ => []

def columnTokens (dialect : Dialect) (hops : List (String × String)) (descriptor : Descriptor) :
    List String :=
  dialect.keyTokens hops descriptor ++
  (descriptor.nullable.map dialect.nullability).toList ++
  (descriptor.defaultText.map fun text => dialect.defaultKeyword ++ " " ++ literal text).toList

theorem intercalate_space (token : String) (tokens : List String) :
    " ".intercalate (token :: tokens) = token ++ String.join (tokens.map (" " ++ ·)) := by
  induction tokens generalizing token with
  | nil => simp
  | cons second rest ih =>
      rw [String.intercalate_cons_cons, ih]
      simp [String.append_assoc]

theorem attributes_reached (dialect : Dialect) (hops : List (String × String))
    (descriptor : Descriptor) :
    dialect.attributes (Registry.reached hops descriptor) =
      String.join ((dialect.columnTokens hops descriptor).map (" " ++ ·)) := by
  cases hops with
  | nil =>
      have token (present : Bool) (word : String) :
          String.join ((if present then [word] else []).map (" " ++ ·)) =
            if present then " " ++ word else "" := by
        cases present <;> simp
      have same : Registry.reached [] descriptor = descriptor := rfl
      rw [same]
      simp only [attributes, columnTokens, keyTokens, List.map_append, String.join_append, token]
      cases descriptor.nullable <;> cases descriptor.defaultText <;> simp [String.append_assoc]
  | cons hop rest =>
      have same : Registry.reached (hop :: rest) descriptor = descriptor.withoutKey := rfl
      rw [same]
      simp only [attributes, columnTokens, keyTokens, Descriptor.withoutKey, List.map_append,
        String.join_append]
      cases descriptor.nullable <;> cases descriptor.defaultText <;> simp [String.append_assoc]

theorem definition_reached {dialect : Dialect} {columnType : ColumnType} {token : String}
    (written : dialect.typeSql columnType = some token) (hops : List (String × String))
    (descriptor : Descriptor) :
    dialect.definition columnType (Registry.reached hops descriptor) =
      .ok (" ".intercalate (token :: dialect.columnTokens hops descriptor)) := by
  rw [definition, written, attributes_reached, intercalate_space]

theorem outcome_resolve (dialect : Dialect) {registry : Registry} {start last : Descriptor}
    {hops : List (String × String)} (chain : registry.Chain start hops last)
    (distinct : (hops.map Prod.fst).Nodup) :
    (dialect.resolve registry start).outcome =
      (registry.follow (hops.map Prod.fst) (Registry.reached hops last)).outcome >>= fun found =>
        dialect.definition found.1 found.2 := by
  have followed := Registry.follow_chain chain [] (by simpa using distinct)
  rw [resolve, Logged.outcome_bind, followed]
  rfl

/-- The definition of a column is that of the descriptor at the end of its chain, whose key tokens
count only where no reference was followed. A chain that cannot go on is an error. -/
theorem resolve_along_chain (dialect : Dialect) {registry : Registry} {start last : Descriptor}
    {hops : List (String × String)} (chain : registry.Chain start hops last)
    (distinct : (hops.map Prod.fst).Nodup) :
    (∀ columnType, last.base = .atomic columnType →
      (dialect.typeSql columnType = none → (dialect.resolve registry start).FailsWith
        (.typeWithoutToken columnType dialect.name) .unknownType) ∧
      ∀ token, dialect.typeSql columnType = some token →
        (dialect.resolve registry start).outcome =
          .ok (" ".intercalate (token :: dialect.columnTokens hops last))) ∧
    ∀ entity, last.base = .reference entity → entity ∉ hops.map Prod.fst →
      (registry.schema? entity = none → (dialect.resolve registry start).FailsWith
        (.unknownEntity entity) .resolution) ∧
      ∀ schema, registry.schema? entity = some schema →
        (schema.explicitIdentity = none → (∀ column ∈ schema.columns, column.2.primary = false) →
          (dialect.resolve registry start).FailsWith
            (.entityWithoutIdentity entity) .resolution) ∧
        ∀ identity, schema.Identifies identity →
          (∀ column ∈ schema.columns, column.1 ≠ identity) →
          (dialect.resolve registry start).FailsWith
            (.identityWithoutType identity entity) .resolution := by
  have outcome := outcome_resolve dialect chain distinct
  constructor
  · intro columnType typed
    have typedReached : (Registry.reached hops last).base = .atomic columnType := by
      rw [Registry.base_reached, typed]
    rw [Registry.follow_atomic typedReached] at outcome
    constructor
    · intro missing
      refine ⟨?_, rfl⟩
      rw [outcome]
      simp only [Logged.outcome_pure, bind, Except.bind, definition, missing]
    · intro token written
      rw [outcome]
      exact definition_reached written hops last
  · intro entity reference fresh
    have referenceReached : (Registry.reached hops last).base = .reference entity := by
      rw [Registry.base_reached, reference]
    constructor
    · intro unknown
      refine ⟨?_, rfl⟩
      rw [outcome, Registry.follow_unknown referenceReached fresh unknown]
      rfl
    · intro schema known
      rw [Registry.follow_known referenceReached fresh known] at outcome
      constructor
      · intro missing others
        refine ⟨?_, rfl⟩
        rw [outcome, Schema.identityColumn_of_unidentified missing others entity]
        rfl
      · intro identity identifies others
        refine ⟨?_, rfl⟩
        rw [outcome, Schema.identityColumn_of_undeclared identifies others entity]
        rfl

def userIdentity : Descriptor :=
  { base := .atomic .int, primary := true, nullable := some false, defaultText := some "it's" }

def users : Schema where
  columns := [("name", { base := .atomic .string }), ("id", userIdentity)]

def tickets : Schema where
  explicitIdentity := some "owner"
  columns := [("id", { base := .atomic .text, primary := true }),
    ("owner", { base := .reference "user", nullable := some true })]

def notes : Schema where
  columns := [("id", { base := .reference "page", primary := true })]

def deskRegistry : Registry := [("ticket", tickets), ("user", users), ("note", notes)]

theorem resolve_along_chain_deskRegistry :
    (sqlite.resolve deskRegistry { base := .reference "ticket", auto := true }).outcome =
        .ok "INTEGER NOT NULL DEFAULT 'it''s'" ∧
      (sqlite.resolve deskRegistry { base := .reference "note" }).FailsWith
        (.unknownEntity "page") .resolution := by
  constructor
  · have identifies : users.Identifies "id" := Schema.identity?_eq_some_iff.mp rfl
    have declares : users.Declares "id" userIdentity := Schema.descriptor?_eq_some_iff.mp rfl
    have owned : tickets.Declares "owner" { base := .reference "user", nullable := some true } :=
      Schema.descriptor?_eq_some_iff.mp rfl
    have chain : deskRegistry.Chain { base := .reference "ticket", auto := true }
        [("ticket", "owner"), ("user", "id")] userIdentity :=
      .hop rfl rfl (.given rfl) owned (.hop rfl rfl identifies declares (.ended userIdentity))
    have ended := resolve_along_chain sqlite chain (by decide)
    exact (ended.1 .int rfl).2 "INTEGER" rfl
  · have identifies : notes.Identifies "id" := Schema.identity?_eq_some_iff.mp rfl
    have declares : notes.Declares "id" { base := .reference "page", primary := true } :=
      Schema.descriptor?_eq_some_iff.mp rfl
    have chain : deskRegistry.Chain { base := .reference "note" } [("note", "id")]
        { base := .reference "page", primary := true } :=
      .hop rfl rfl identifies declares (.ended _)
    have ended := resolve_along_chain sqlite chain (by decide)
    exact (ended.2 "page" rfl (by decide)).1 rfl

end Dialect

end BoundSql
