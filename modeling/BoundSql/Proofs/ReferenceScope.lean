import BoundSql.Proofs.ReferenceCycle

/-! What a resolution reads. Only the entities that a column's chain of references visits count,
and of their schemas only the identity column, so other entities come and go unnoticed. -/

namespace BoundSql

namespace Schema

variable {schema other : Schema}

structure SameIdentity (schema other : Schema) : Prop where
  identifies : ∀ name, schema.Identifies name ↔ other.Identifies name
  declares : ∀ name, schema.Identifies name → ∀ descriptor,
    schema.Declares name descriptor ↔ other.Declares name descriptor

theorem SameIdentity.refl (schema : Schema) : schema.SameIdentity schema :=
  ⟨fun _ => Iff.rfl, fun _ _ _ => Iff.rfl⟩

theorem SameIdentity.identityColumn_eq (same : schema.SameIdentity other) (entity : String) :
    other.identityColumn entity = schema.identityColumn entity := by
  have names : other.identity? = schema.identity? := by
    ext name
    rw [identity?_eq_some_iff, identity?_eq_some_iff, same.identifies name]
  cases identified : schema.identity? with
  | none => simp only [identityColumn, names, identified]
  | some name =>
      have identifies := identity?_eq_some_iff.mp identified
      have descriptors : other.descriptor? name = schema.descriptor? name := by
        ext descriptor
        rw [descriptor?_eq_some_iff, descriptor?_eq_some_iff,
          same.declares name identifies descriptor]
      simp only [identityColumn, names, identified, descriptors]

theorem identityColumn_eq_ok_iff {entity name : String} {descriptor : Descriptor} :
    schema.identityColumn entity = .ok (name, descriptor) ↔
      schema.Identifies name ∧ schema.Declares name descriptor := by
  constructor
  · intro found
    unfold identityColumn at found
    cases identified : schema.identity? with
    | none => simp [identified] at found
    | some identity =>
        cases declared : schema.descriptor? identity with
        | none => simp [identified, declared] at found
        | some first =>
            simp only [identified, declared, Except.ok.injEq, Prod.mk.injEq] at found
            obtain ⟨rfl, rfl⟩ := found
            exact ⟨identity?_eq_some_iff.mp identified, descriptor?_eq_some_iff.mp declared⟩
  · rintro ⟨identifies, declares⟩
    exact identityColumn_of_declared identifies declares entity

end Schema

namespace Registry

variable {registry other : Registry} {start last : Descriptor} {hops : List (String × String)}
  {entity : String}

/-- The chain from `start` comes to a reference to `entity` for the first time, whether or not it
can go on from there. -/
def Visits (registry : Registry) (start : Descriptor) (entity : String) : Prop :=
  ∃ hops last, registry.Chain start hops last ∧ (hops.map Prod.fst).Nodup ∧
    last.base = .reference entity ∧ entity ∉ hops.map Prod.fst

/-- Neither registry knows the entity, or both do and identify it alike. -/
def AgreeAt (registry other : Registry) (entity : String) : Prop :=
  Option.Rel Schema.SameIdentity (registry.schema? entity) (other.schema? entity)

theorem agreeAt_of_eq (same : other.schema? entity = registry.schema? entity) :
    registry.AgreeAt other entity := by
  unfold AgreeAt
  rw [same]
  cases registry.schema? entity with
  | none => exact .none
  | some schema => exact .some (.refl schema)

theorem AgreeAt.unknown (agree : registry.AgreeAt other entity)
    (unknown : registry.schema? entity = none) : other.schema? entity = none := by
  unfold AgreeAt at agree
  rw [unknown] at agree
  generalize found : other.schema? entity = declared at agree
  cases agree
  rfl

theorem AgreeAt.known (agree : registry.AgreeAt other entity) {schema : Schema}
    (known : registry.schema? entity = some schema) :
    ∃ alike, other.schema? entity = some alike ∧ schema.SameIdentity alike := by
  unfold AgreeAt at agree
  rw [known] at agree
  generalize found : other.schema? entity = declared at agree
  cases agree with
  | some same => exact ⟨_, rfl, same⟩

theorem Chain.extends_to_stop {middle : Descriptor} {earlier : List (String × String)}
    (partway : registry.Chain start earlier middle) (visited : List String)
    (distinct : (visited ++ earlier.map Prod.fst).Nodup) (chain : registry.Chain start hops last)
    (stops : registry.Stops (visited ++ hops.map Prod.fst) last) :
    ∃ more, hops = earlier ++ more ∧ registry.Chain middle more last := by
  induction partway generalizing visited hops with
  | ended descriptor => exact ⟨hops, rfl, chain⟩
  | @hop _ next _ entity identity schema _ reference known identifies declares _ ih =>
      have fresh : entity ∉ visited := by
        intro seen
        exact (List.nodup_append.mp distinct).2.2 entity seen entity (by simp) rfl
      cases hops with
      | nil =>
          -- a chain that has stopped has nothing to go on with
          cases chain
          rw [List.map_nil, List.append_nil] at stops
          cases stops with
          | typed base => simp [reference] at base
          | repeated base seen =>
              rw [reference, BaseType.reference.injEq] at base
              exact absurd (base ▸ seen) fresh
          | unidentified base _ stuck =>
              rw [reference, BaseType.reference.injEq] at base
              subst base
              exact absurd declares (stuck schema identity next known identifies)
      | cons first rest =>
          obtain ⟨rfl, onward⟩ := chain.tail reference known identifies declares
          rw [List.map_cons, List.append_cons] at distinct stops
          obtain ⟨more, rfl, remaining⟩ := ih _ distinct onward stops
          exact ⟨more, rfl, remaining⟩

theorem Chain.visits_iff (chain : registry.Chain start hops last)
    (distinct : (hops.map Prod.fst).Nodup) (stops : registry.Stops (hops.map Prod.fst) last) :
    registry.Visits start entity ↔
      entity ∈ hops.map Prod.fst ∨ last.base = .reference entity := by
  constructor
  · rintro ⟨earlier, middle, partway, unique, reference, fresh⟩
    obtain ⟨more, rfl, remaining⟩ := partway.extends_to_stop [] unique chain stops
    cases remaining with
    | ended => exact .inr reference
    | hop onward _ _ _ _ =>
        obtain rfl : entity = _ := by simpa [reference] using onward
        exact .inl (by simp)
  · intro visited
    by_cases met : entity ∈ hops.map Prod.fst
    · exact chain.up_to distinct met
    · exact ⟨hops, last, chain, distinct, visited.resolve_left met, met⟩

theorem Chain.transfer (chain : registry.Chain start hops last)
    (same : ∀ entity ∈ hops.map Prod.fst, registry.AgreeAt other entity) :
    other.Chain start hops last := by
  induction chain with
  | ended descriptor => exact .ended descriptor
  | @hop start next last entity identity schema hops reference known identifies declares _ ih =>
      rw [List.map_cons, List.forall_mem_cons] at same
      obtain ⟨here, others⟩ := same
      obtain ⟨alike, found, agree⟩ := here.known known
      exact .hop reference found ((agree.identifies identity).mp identifies)
        ((agree.declares identity identifies next).mp declares) (ih others)

theorem Stops.of_base {visited : List String} {descriptor : Descriptor}
    (stops : registry.Stops visited last) (same : descriptor.base = last.base) :
    registry.Stops visited descriptor := by
  cases stops with
  | typed base => exact .typed (same.trans base)
  | repeated reference seen => exact .repeated (same.trans reference) seen
  | unidentified reference fresh stuck => exact .unidentified (same.trans reference) fresh stuck

theorem follow_congr_at_stop {visited : List String} (stops : registry.Stops visited last)
    (same : ∀ entity, last.base = .reference entity → registry.AgreeAt other entity) :
    other.follow visited last = registry.follow visited last := by
  cases stops with
  | typed base => rw [follow_atomic base, follow_atomic base]
  | repeated reference seen => rw [follow_again reference seen, follow_again reference seen]
  | @unidentified entity reference fresh stuck =>
      have agree := same entity reference
      cases known : registry.schema? entity with
      | none =>
          rw [follow_unknown reference fresh known,
            follow_unknown reference fresh (agree.unknown known)]
      | some schema =>
          obtain ⟨alike, found, sameIdentity⟩ := agree.known known
          rw [follow_known reference fresh known, follow_known reference fresh found,
            sameIdentity.identityColumn_eq]
          -- the identity column is in error, so nothing is followed from it
          cases identified : schema.identityColumn entity with
          | error error => rfl
          | ok target =>
              obtain ⟨identifies, declares⟩ := Schema.identityColumn_eq_ok_iff.mp identified
              exact absurd declares (stuck schema target.1 target.2 known identifies)

theorem follow_congr (start : Descriptor)
    (same : ∀ entity, registry.Visits start entity → registry.AgreeAt other entity) :
    other.follow [] start = registry.follow [] start := by
  obtain ⟨hops, last, chain, distinct, stops⟩ :=
    registry.exists_chain_to_stop start [] List.nodup_nil
  rw [List.nil_append] at stops
  have unique : (hops.map Prod.fst).Nodup := distinct
  have transferred : other.Chain start hops last := chain.transfer fun entity followed =>
    same entity ((chain.visits_iff unique stops).mpr (.inl followed))
  have ended : other.follow (hops.map Prod.fst) (reached hops last) =
      registry.follow (hops.map Prod.fst) (reached hops last) := by
    refine follow_congr_at_stop (stops.of_base (base_reached hops last)) ?_
    intro entity reference
    rw [base_reached] at reference
    exact same entity ((chain.visits_iff unique stops).mpr (.inr reference))
  rw [follow_chain chain [] distinct, follow_chain transferred [] distinct, List.nil_append, ended]

end Registry

namespace Dialect

variable {registry : Registry} {start : Descriptor}

theorem resolve_congr (dialect : Dialect) {other : Registry}
    (same : ∀ entity, registry.Visits start entity → registry.AgreeAt other entity) :
    dialect.resolve other start = dialect.resolve registry start := by
  rw [resolve, resolve, Registry.follow_congr start same]

theorem visits_iff_told (dialect : Dialect) (registry : Registry) (start : Descriptor)
    (entity : String) :
    registry.Visits start entity ↔
      (∃ identity, .following entity identity ∈ (dialect.resolve registry start).records) ∨
      ∃ error, (dialect.resolve registry start).outcome = .error error ∧
        error.unidentified? = some entity := by
  obtain ⟨hops, last, chain, distinct, stops⟩ :=
    registry.exists_chain_to_stop start [] List.nodup_nil
  rw [List.nil_append] at distinct stops
  have told : (∃ identity, .following entity identity ∈ Registry.followed hops) ↔
      entity ∈ hops.map Prod.fst := by
    simp [Registry.followed]
  rw [chain.visits_iff distinct stops, (resolve_at_stop dialect chain distinct stops).1, told,
    outcome_resolve dialect chain distinct]
  have base := Registry.base_reached hops last
  cases stops with
  | @typed columnType typed =>
      rw [Registry.follow_atomic (base.trans typed)]
      have unmissed : ∀ error, dialect.definition columnType (Registry.reached hops last) =
          .error error → error.unidentified? = none := by
        intro error failed
        unfold definition at failed
        split at failed
        · cases failed
          rfl
        · cases failed
      constructor
      · rintro (followed | reference)
        · exact .inl followed
        · simp [typed] at reference
      · rintro (followed | ⟨error, failed, missed⟩)
        · exact .inl followed
        · simp [unmissed error failed] at missed
  | @repeated again reference seen =>
      rw [Registry.follow_again (base.trans reference) seen]
      constructor
      · rintro (followed | other)
        · exact .inl followed
        · rw [reference, BaseType.reference.injEq] at other
          exact .inl (other ▸ seen)
      · rintro (followed | ⟨error, failed, missed⟩)
        · exact .inl followed
        · cases failed
          cases missed
  | @unidentified stuckAt reference fresh stuck =>
      obtain ⟨error, failed, missed⟩ :=
        Registry.follow_unidentified (base.trans reference) fresh stuck
      rw [failed, reference, BaseType.reference.injEq]
      constructor
      · rintro (followed | rfl)
        · exact .inl followed
        · exact .inr ⟨error, rfl, missed⟩
      · rintro (followed | ⟨other, same, otherMissed⟩)
        · exact .inl followed
        · cases same
          exact .inr (Option.some.inj (missed.symm.trans otherMissed))

/-- What a resolution gives, reports and tells the log depends on nothing but the entities that it
visits, and of each on the name of its identity column and the first descriptor of that name. An
entity that it does not visit may be registered or replaced, and so may any new one if the
resolution succeeds. -/
theorem resolve_depends_on_visited (dialect : Dialect) (registry : Registry) (start : Descriptor) :
    (∀ entity, registry.Visits start entity ↔
      (∃ identity, .following entity identity ∈ (dialect.resolve registry start).records) ∨
      ∃ error, (dialect.resolve registry start).outcome = .error error ∧
        error.unidentified? = some entity) ∧
    (∀ other : Registry, (∀ entity, registry.Visits start entity →
        other.schema? entity = registry.schema? entity) →
      dialect.resolve other start = dialect.resolve registry start) ∧
    (∀ other : Registry, (∀ entity, registry.Visits start entity →
        registry.AgreeAt other entity) →
      dialect.resolve other start = dialect.resolve registry start) ∧
    (∀ entity schema, ¬registry.Visits start entity →
      dialect.resolve (registry.register entity schema) start =
        dialect.resolve registry start) ∧
    ∀ entity schema sql, registry.schema? entity = none →
      (dialect.resolve registry start).outcome = .ok sql →
      dialect.resolve (registry.register entity schema) start =
        dialect.resolve registry start := by
  have registered : ∀ entity schema, ¬registry.Visits start entity →
      dialect.resolve (registry.register entity schema) start =
        dialect.resolve registry start := by
    intro entity schema unvisited
    apply resolve_congr
    intro visited visits
    have different : entity ≠ visited := fun same => unvisited (same ▸ visits)
    apply Registry.agreeAt_of_eq
    simp only [Registry.schema?, Registry.register, Keyed.find?_put, different, if_false]
  refine ⟨visits_iff_told dialect registry start, ?_, ?_, registered, ?_⟩
  · intro other same
    apply resolve_congr
    intro entity visits
    exact Registry.agreeAt_of_eq (same entity visits)
  · intro other same
    exact resolve_congr dialect same
  · intro entity schema sql unknown resolved
    apply registered
    rintro ⟨hops, last, chain, distinct, reference, fresh⟩
    rw [outcome_resolve dialect chain distinct, Registry.follow_unknown
      ((Registry.base_reached hops last).trans reference) fresh unknown] at resolved
    cases resolved

def members : Schema where
  explicitIdentity := some "id"
  columns := [("id", userIdentity), ("id", { base := .atomic .bool })]

theorem users_sameIdentity_members : users.SameIdentity members := by
  constructor
  · intro name
    rw [← Schema.identity?_eq_some_iff, ← Schema.identity?_eq_some_iff]
    exact Iff.rfl
  · intro name identifies descriptor
    obtain rfl : "id" = name := (Schema.identity?_eq_some_iff.mp rfl).unique identifies
    rw [← Schema.descriptor?_eq_some_iff, ← Schema.descriptor?_eq_some_iff]
    exact Iff.rfl

def ticketOwner : Descriptor := { base := .reference "ticket", auto := true }

theorem chain_ticketOwner :
    deskRegistry.Chain ticketOwner [("ticket", "owner"), ("user", "id")] userIdentity := by
  have identifies : users.Identifies "id" := Schema.identity?_eq_some_iff.mp rfl
  have declares : users.Declares "id" userIdentity := Schema.descriptor?_eq_some_iff.mp rfl
  have owned : tickets.Declares "owner" { base := .reference "user", nullable := some true } :=
    Schema.descriptor?_eq_some_iff.mp rfl
  exact .hop rfl rfl (.given rfl) owned (.hop rfl rfl identifies declares (.ended userIdentity))

theorem visits_ticketOwner_iff (entity : String) :
    deskRegistry.Visits ticketOwner entity ↔ entity ∈ ["ticket", "user"] := by
  rw [chain_ticketOwner.visits_iff (by decide) (.typed rfl)]
  simp [userIdentity]

theorem resolve_depends_on_visited_deskRegistry :
    (∀ entity, deskRegistry.Visits ticketOwner entity →
      deskRegistry.AgreeAt [("user", members), ("ticket", tickets)] entity) ∧
    sqlite.resolve [("user", members), ("ticket", tickets)] ticketOwner =
      sqlite.resolve deskRegistry ticketOwner ∧
    sqlite.resolve [("user", users), ("ticket", tickets)] ticketOwner =
      sqlite.resolve deskRegistry ticketOwner ∧
    sqlite.resolve (deskRegistry.register "note" members) ticketOwner =
      sqlite.resolve deskRegistry ticketOwner ∧
    sqlite.resolve (deskRegistry.register "page" members) ticketOwner =
      sqlite.resolve deskRegistry ticketOwner := by
  obtain ⟨_, same, alike, replaced, added⟩ :=
    resolve_depends_on_visited sqlite deskRegistry ticketOwner
  have agree : ∀ entity, deskRegistry.Visits ticketOwner entity →
      deskRegistry.AgreeAt [("user", members), ("ticket", tickets)] entity := by
    intro entity visits
    rw [visits_ticketOwner_iff] at visits
    simp only [List.mem_cons, List.not_mem_nil, or_false] at visits
    rcases visits with rfl | rfl
    · exact Registry.agreeAt_of_eq rfl
    · exact .some users_sameIdentity_members
  have resolved : (sqlite.resolve deskRegistry ticketOwner).outcome =
      .ok "INTEGER NOT NULL DEFAULT 'it''s'" := by
    rw [outcome_resolve sqlite chain_ticketOwner (by decide), Registry.follow_atomic rfl]
    rfl
  refine ⟨agree, alike _ agree, same _ ?_, replaced _ _ ?_, added _ _ _ rfl resolved⟩
  · intro entity visits
    rw [visits_ticketOwner_iff] at visits
    simp only [List.mem_cons, List.not_mem_nil, or_false] at visits
    rcases visits with rfl | rfl <;> rfl
  · rw [visits_ticketOwner_iff]
    decide

end Dialect

end BoundSql
