import BoundSql.Proofs.ReferenceChain
import Mathlib.Data.List.Dedup
import Mathlib.Data.List.Perm.Subperm

/-! Chains of references to their end. Each entity is followed at most once, so every chain ends,
and a cycle is reported exactly where it comes back to an entity that it has followed. -/

namespace BoundSql

namespace Logged

@[simp] theorem records_ofExcept {α : Type} (outcome : Except Error α) :
    (ofExcept outcome).records = [] := rfl

@[simp] theorem outcome_ofExcept {α : Type} (outcome : Except Error α) :
    (ofExcept outcome).outcome = outcome := rfl

theorem records_bind_lift {α β : Type} (first : Logged α) (next : α → Except Error β) :
    (first >>= fun result => (next result : Logged β)).records = first.records := by
  obtain ⟨records, outcome⟩ := first
  cases outcome with
  | error error => rfl
  | ok result => exact List.append_nil records

end Logged

namespace Schema

variable {schema : Schema} {name other : String} {descriptor second : Descriptor}

theorem Identifies.unique (first : schema.Identifies name) (again : schema.Identifies other) :
    name = other := by
  rw [← identity?_eq_some_iff] at first again
  exact Option.some.inj (first.symm.trans again)

theorem Declares.unique (first : schema.Declares name descriptor)
    (again : schema.Declares name second) : descriptor = second := by
  rw [← descriptor?_eq_some_iff] at first again
  exact Option.some.inj (first.symm.trans again)

end Schema

def Error.unidentified? : Error → Option String
  | .unknownEntity entity => some entity
  | .entityWithoutIdentity entity => some entity
  | .identityWithoutType _ entity => some entity
  | _ => none

namespace Registry

variable {registry : Registry} {start middle last : Descriptor} {hops more : List (String × String)}

theorem Chain.append (chain : registry.Chain start hops middle)
    (following : registry.Chain middle more last) : registry.Chain start (hops ++ more) last := by
  induction chain with
  | ended descriptor => exact following
  | hop reference known identifies declares _ ih =>
      exact .hop reference known identifies declares (ih following)

theorem Chain.split {earlier : List (String × String)}
    (chain : registry.Chain start (earlier ++ more) last) :
    ∃ middle, registry.Chain start earlier middle ∧ registry.Chain middle more last := by
  induction earlier generalizing start with
  | nil => exact ⟨start, .ended start, chain⟩
  | cons first rest ih =>
      cases chain with
      | hop reference known identifies declares onward =>
          obtain ⟨middle, before, after⟩ := ih onward
          exact ⟨middle, .hop reference known identifies declares before, after⟩

theorem Chain.tail {next : Descriptor} {schema : Schema} {entity identity : String}
    {first : String × String} (chain : registry.Chain start (first :: hops) last)
    (reference : start.base = .reference entity) (known : registry.schema? entity = some schema)
    (identifies : schema.Identifies identity) (declares : schema.Declares identity next) :
    first = (entity, identity) ∧ registry.Chain next hops last := by
  cases chain with
  | @hop _ following _ other _ found _ otherReference otherKnown otherIdentifies otherDeclares
      onward =>
      obtain rfl : entity = other := by simpa [reference] using otherReference
      obtain rfl : schema = found := by simpa [known] using otherKnown
      obtain rfl := identifies.unique otherIdentifies
      obtain rfl := declares.unique otherDeclares
      exact ⟨rfl, onward⟩

theorem Chain.up_to (chain : registry.Chain start hops last)
    (distinct : (hops.map Prod.fst).Nodup) {entity : String} (met : entity ∈ hops.map Prod.fst) :
    ∃ earlier middle, registry.Chain start earlier middle ∧ (earlier.map Prod.fst).Nodup ∧
      middle.base = .reference entity ∧ entity ∉ earlier.map Prod.fst := by
  obtain ⟨⟨_, identity⟩, present, rfl⟩ := List.mem_map.mp met
  obtain ⟨before, after, rfl⟩ := List.append_of_mem present
  obtain ⟨middle, lead, back⟩ := chain.split
  rw [List.map_append, List.map_cons, List.nodup_middle, List.nodup_cons, List.mem_append,
    not_or] at distinct
  cases back with
  | hop reference _ _ _ _ =>
      exact ⟨before, middle, lead, (List.nodup_append.mp distinct.2).1, reference, distinct.1.1⟩

theorem Chain.registered (chain : registry.Chain start hops last) :
    ∀ entity ∈ hops.map Prod.fst, entity ∈ Keyed.keys registry := by
  induction chain with
  | ended descriptor => simp
  | hop _ known _ _ _ ih =>
      intro entity member
      rcases List.mem_cons.mp member with same | later
      · exact same ▸ Keyed.mem_keys_of_find? known
      · exact ih entity later

theorem Chain.length_le (chain : registry.Chain start hops last)
    (distinct : (hops.map Prod.fst).Nodup) : hops.length ≤ (Keyed.keys registry).dedup.length := by
  have within : hops.map Prod.fst ⊆ (Keyed.keys registry).dedup := by
    intro entity member
    exact List.mem_dedup.mpr (chain.registered entity member)
  simpa using (List.subperm_of_subset distinct within).length_le

def Unidentified (registry : Registry) (entity : String) : Prop :=
  ∀ schema identity next, registry.schema? entity = some schema → schema.Identifies identity →
    ¬schema.Declares identity next

/-- Where a chain that has followed `visited` ends. -/
inductive Stops (registry : Registry) (visited : List String) (last : Descriptor) : Prop
  | typed {columnType : ColumnType} : last.base = .atomic columnType → Stops registry visited last
  | repeated {entity : String} : last.base = .reference entity → entity ∈ visited →
      Stops registry visited last
  | unidentified {entity : String} : last.base = .reference entity → entity ∉ visited →
      registry.Unidentified entity → Stops registry visited last

def Cyclic (registry : Registry) (start : Descriptor) : Prop :=
  ∃ hops last repeated, registry.Chain start hops last ∧ (hops.map Prod.fst).Nodup ∧
    last.base = .reference repeated ∧ repeated ∈ hops.map Prod.fst

/-- A reference is part of a cycle or leads to one exactly if the identity column that it stands
for does, whichever column it belongs to. -/
theorem cyclic_reference_iff {entity identity : String} {schema : Schema} {next : Descriptor}
    (reference : start.base = .reference entity) (known : registry.schema? entity = some schema)
    (identifies : schema.Identifies identity) (declares : schema.Declares identity next) :
    registry.Cyclic start ↔ registry.Cyclic next := by
  constructor
  · rintro ⟨hops, last, repeated, chain, distinct, onward, member⟩
    cases hops with
    | nil => simp at member
    | cons first rest =>
        obtain ⟨rfl, remaining⟩ := chain.tail reference known identifies declares
        simp only [List.map_cons, List.nodup_cons, List.mem_cons] at distinct member
        rcases member with same | later
        · -- the first entity again: the cycle goes through `next` itself
          subst same
          have round : registry.Chain next (rest ++ [(repeated, identity)]) next :=
            remaining.append (.hop onward known identifies declares (.ended next))
          have unique : ((rest ++ [(repeated, identity)]).map Prod.fst).Nodup := by
            rw [List.map_append, List.nodup_append_comm]
            exact List.nodup_cons.mpr distinct
          cases remaining with
          | ended => exact ⟨_, _, repeated, round, unique, onward, by simp⟩
          | @hop _ _ _ second _ _ _ secondReference _ _ _ _ =>
              exact ⟨_, _, second, round, unique, secondReference, by simp⟩
        · exact ⟨rest, last, repeated, remaining, distinct.2, onward, later⟩
  · rintro ⟨hops, last, repeated, chain, distinct, onward, member⟩
    by_cases met : entity ∈ hops.map Prod.fst
    · obtain ⟨earlier, middle, lead, unique, again, fresh⟩ := chain.up_to distinct met
      refine ⟨_, middle, entity, .hop reference known identifies declares lead, ?_, again, by simp⟩
      exact List.nodup_cons.mpr ⟨fresh, unique⟩
    · refine ⟨_, last, repeated, .hop reference known identifies declares chain, ?_, onward, ?_⟩
      · exact List.nodup_cons.mpr ⟨met, distinct⟩
      · exact List.mem_cons_of_mem entity member

theorem exists_chain_to_stop (registry : Registry) (start : Descriptor) (visited : List String)
    (distinct : visited.Nodup) :
    ∃ hops last, registry.Chain start hops last ∧ (visited ++ hops.map Prod.fst).Nodup ∧
      registry.Stops (visited ++ hops.map Prod.fst) last := by
  -- every hop takes one entity off those that were not visited
  generalize left : registry.unvisited visited = count
  induction count using Nat.strongRecOn generalizing start visited with
  | ind count ih =>
      cases base : start.base with
      | atomic columnType => exact ⟨[], start, .ended start, by simpa, .typed base⟩
      | reference entity =>
          by_cases seen : entity ∈ visited
          · exact ⟨[], start, .ended start, by simpa, .repeated base (by simpa using seen)⟩
          · by_cases stuck : registry.Unidentified entity
            · exact ⟨[], start, .ended start, by simpa,
                .unidentified base (by simpa using seen) stuck⟩
            · simp only [Unidentified, not_forall, not_not] at stuck
              obtain ⟨schema, identity, next, known, identifies, declares⟩ := stuck
              have fewer := unvisited_lt visited entity schema registry known seen
              have longer : (visited ++ [entity]).Nodup := by
                rw [List.nodup_append_comm]
                exact List.nodup_cons.mpr ⟨seen, distinct⟩
              obtain ⟨hops, last, chain, unique, stops⟩ :=
                ih _ (left ▸ fewer) next (visited ++ [entity]) longer rfl
              have regrouped : visited ++ [entity] ++ hops.map Prod.fst =
                  visited ++ ((entity, identity) :: hops).map Prod.fst := by simp
              rw [regrouped] at unique stops
              exact ⟨_, last, .hop base known identifies declares chain, unique, stops⟩

theorem follow_unidentified {visited : List String} {entity : String}
    (reference : start.base = .reference entity) (fresh : entity ∉ visited)
    (stuck : registry.Unidentified entity) :
    ∃ error, registry.follow visited start = .ofExcept (.error error) ∧
      error.unidentified? = some entity := by
  cases known : registry.schema? entity with
  | none => exact ⟨_, follow_unknown reference fresh known, rfl⟩
  | some schema =>
      rw [follow_known reference fresh known]
      cases identified : schema.identity? with
      | none =>
          refine ⟨.entityWithoutIdentity entity, ?_, rfl⟩
          simp only [Schema.identityColumn, identified]
          rfl
      | some identity =>
          have undeclared : schema.descriptor? identity = none := by
            rw [Option.eq_none_iff_forall_ne_some]
            intro next declared
            exact stuck schema identity next known (Schema.identity?_eq_some_iff.mp identified)
              (Schema.descriptor?_eq_some_iff.mp declared)
          refine ⟨.identityWithoutType identity entity, ?_, rfl⟩
          simp only [Schema.identityColumn, identified, undeclared]
          rfl

end Registry

namespace Dialect

variable {dialect : Dialect} {registry : Registry} {start last : Descriptor}
  {hops : List (String × String)}

def ReportsCycle (dialect : Dialect) (registry : Registry) (descriptor : Descriptor)
    (entities : List String) : Prop :=
  (dialect.resolve registry descriptor).outcome = .error (.referenceCycle entities)

theorem records_resolve (dialect : Dialect) (chain : registry.Chain start hops last)
    (distinct : (hops.map Prod.fst).Nodup) :
    (dialect.resolve registry start).records = Registry.followed hops ++
      (registry.follow (hops.map Prod.fst) (Registry.reached hops last)).records := by
  have followed := Registry.follow_chain chain [] (by simpa using distinct)
  rw [resolve, followed, List.nil_append]
  exact Logged.records_bind_lift _ fun found : ColumnType × Descriptor =>
    dialect.definition found.1 found.2

theorem definition_not_cycle (dialect : Dialect) (columnType : ColumnType)
    (descriptor : Descriptor) (entities : List String) :
    dialect.definition columnType descriptor ≠ .error (.referenceCycle entities) := by
  unfold definition
  split <;> simp

theorem resolve_at_stop (dialect : Dialect) (chain : registry.Chain start hops last)
    (distinct : (hops.map Prod.fst).Nodup) (stops : registry.Stops (hops.map Prod.fst) last) :
    (dialect.resolve registry start).records = Registry.followed hops ∧
      ∀ entities, dialect.ReportsCycle registry start entities ↔
        ∃ repeated, last.base = .reference repeated ∧ repeated ∈ hops.map Prod.fst ∧
          entities = hops.map Prod.fst ++ [repeated] := by
  have base := Registry.base_reached hops last
  rw [records_resolve dialect chain distinct]
  simp only [ReportsCycle, outcome_resolve dialect chain distinct]
  cases stops with
  | @typed columnType typed =>
      rw [Registry.follow_atomic (base.trans typed)]
      refine ⟨by simp, ?_⟩
      intro entities
      constructor
      · intro reported
        exact absurd reported (definition_not_cycle dialect columnType _ entities)
      · rintro ⟨repeated, reference, _, _⟩
        simp [typed] at reference
  | @repeated entity reference seen =>
      rw [Registry.follow_again (base.trans reference) seen]
      refine ⟨by simp, ?_⟩
      intro entities
      constructor
      · intro reported
        exact ⟨entity, reference, seen, by cases reported; rfl⟩
      · rintro ⟨repeated, other, _, rfl⟩
        rw [reference, BaseType.reference.injEq] at other
        rw [other]
        rfl
  | @unidentified entity reference fresh stuck =>
      obtain ⟨error, failed, missed⟩ :=
        Registry.follow_unidentified (base.trans reference) fresh stuck
      rw [failed]
      refine ⟨by simp, ?_⟩
      intro entities
      constructor
      · intro reported
        cases reported
        cases missed
      · rintro ⟨repeated, other, seen, _⟩
        rw [reference, BaseType.reference.injEq] at other
        exact absurd (other ▸ seen) fresh

theorem columnDefinitions_error_iff (dialect : Dialect) (registry : Registry)
    (columns : List (String × Descriptor)) (error : Error) :
    (dialect.columnDefinitions registry columns).outcome = .error error ↔
      ∃ before column after, columns = before ++ column :: after ∧
        (∀ earlier ∈ before, ∃ sql, (dialect.resolve registry earlier.2).outcome = .ok sql) ∧
        (dialect.resolve registry column.2).outcome = .error error := by
  induction columns with
  | nil => simp [columnDefinitions]
  | cons first rest ih =>
      simp only [columnDefinitions, Logged.outcome_bind, Logged.outcome_pure]
      cases resolved : (dialect.resolve registry first.2).outcome with
      | error found =>
          simp only [bind, Except.bind, Except.error.injEq]
          constructor
          · rintro rfl
            exact ⟨[], first, rest, rfl, by simp, resolved⟩
          · rintro ⟨before, column, after, columns, earlier, failed⟩
            cases before with
            | nil =>
                simp only [List.nil_append, List.cons.injEq] at columns
                rw [← columns.1, resolved] at failed
                exact Except.error.inj failed
            | cons head others =>
                obtain ⟨sql, defined⟩ := earlier head (by simp)
                simp only [List.cons_append, List.cons.injEq] at columns
                simp [← columns.1, resolved] at defined
      | ok sql =>
          have onward : (do
              let others ← (dialect.columnDefinitions registry rest).outcome
              Except.ok ((first.1, sql) :: others)) = .error error ↔
                (dialect.columnDefinitions registry rest).outcome = .error error := by
            cases (dialect.columnDefinitions registry rest).outcome <;> simp [bind, Except.bind]
          refine onward.trans (ih.trans ?_)
          constructor
          · rintro ⟨before, column, after, rfl, earlier, failed⟩
            refine ⟨first :: before, column, after, rfl, ?_, failed⟩
            simp only [List.forall_mem_cons]
            exact ⟨⟨sql, resolved⟩, earlier⟩
          · rintro ⟨before, column, after, columns, earlier, failed⟩
            cases before with
            | nil =>
                simp only [List.nil_append, List.cons.injEq] at columns
                simp [← columns.1, resolved] at failed
            | cons head others =>
                simp only [List.cons_append, List.cons.injEq] at columns
                simp only [List.forall_mem_cons] at earlier
                exact ⟨others, column, after, columns.2, earlier.2, failed⟩

theorem reportsCycle_iff_cyclic (dialect : Dialect) (registry : Registry) (start : Descriptor) :
    (∃ entities, dialect.ReportsCycle registry start entities) ↔ registry.Cyclic start := by
  constructor
  · rintro ⟨entities, reported⟩
    obtain ⟨hops, last, chain, distinct, stops⟩ :=
      registry.exists_chain_to_stop start [] List.nodup_nil
    rw [List.nil_append] at distinct stops
    obtain ⟨repeated, reference, member, _⟩ :=
      ((resolve_at_stop dialect chain distinct stops).2 entities).mp reported
    exact ⟨hops, last, repeated, chain, distinct, reference, member⟩
  · rintro ⟨hops, last, repeated, chain, distinct, reference, member⟩
    have stops : registry.Stops (hops.map Prod.fst) last := .repeated reference member
    exact ⟨_, ((resolve_at_stop dialect chain distinct stops).2 _).mpr
      ⟨repeated, reference, member, rfl⟩⟩

/-- Every column has a chain of references that ends. Each reference of it is told to the log once,
in order and for an entity of its own, and a cycle is reported exactly if the chain ends at an
entity that it has followed. Columns of one table do not count against each other, and a column
that references its own entity is no cycle unless the identity column leads to one. -/
theorem resolve_reports_exactly_cycles (dialect : Dialect) (registry : Registry)
    (start : Descriptor) :
    (∃ hops last, registry.Chain start hops last ∧ registry.Stops (hops.map Prod.fst) last ∧
      (dialect.resolve registry start).records = Registry.followed hops ∧
      (hops.map Prod.fst).Nodup ∧
      (∀ entity ∈ hops.map Prod.fst, entity ∈ Keyed.keys registry) ∧
      hops.length ≤ (Keyed.keys registry).dedup.length ∧
      ∀ entities, dialect.ReportsCycle registry start entities ↔
        ∃ repeated, last.base = .reference repeated ∧ repeated ∈ hops.map Prod.fst ∧
          entities = hops.map Prod.fst ++ [repeated]) ∧
    (∀ entities, (Error.referenceCycle entities).message =
      "Type resolution failed: reference cycle: " ++ " -> ".intercalate entities) ∧
    (∀ schema entities, (dialect.tableDefinitions registry schema).outcome =
        .error (.referenceCycle entities) ↔
      ∃ before column after, schema.columns = before ++ column :: after ∧
        (∀ earlier ∈ before, ∃ sql, (dialect.resolve registry earlier.2).outcome = .ok sql) ∧
        dialect.ReportsCycle registry column.2 entities) ∧
    ∀ entity schema identity next, registry.schema? entity = some schema →
      schema.Identifies identity → schema.Declares identity next →
      ∀ column ∈ schema.columns, column.2.base = .reference entity →
        ((∃ entities, dialect.ReportsCycle registry column.2 entities) ↔ registry.Cyclic next) := by
  refine ⟨?_, ?_, ?_, ?_⟩
  · obtain ⟨hops, last, chain, distinct, stops⟩ :=
      registry.exists_chain_to_stop start [] List.nodup_nil
    rw [List.nil_append] at distinct stops
    obtain ⟨records, reported⟩ := resolve_at_stop dialect chain distinct stops
    exact ⟨hops, last, chain, stops, records, distinct, chain.registered,
      chain.length_le distinct, reported⟩
  · intro entities
    rfl
  · intro schema entities
    exact columnDefinitions_error_iff dialect registry schema.columns _
  · intro entity schema identity next known identifies declares column _ reference
    rw [reportsCycle_iff_cyclic]
    exact Registry.cyclic_reference_iff reference known identifies declares

def pages : Schema where
  columns := [("number", { base := .atomic .int, primary := true }),
    ("parent", { base := .reference "page" }), ("original", { base := .reference "page" })]

theorem resolve_reports_exactly_cycles_pages :
    pages.Identifies "number" ∧
      pages.Declares "number" { base := .atomic .int, primary := true } ∧
      ¬∃ entities,
        sqlite.ReportsCycle [("page", pages)] { base := .reference "page" } entities := by
  have identifies : pages.Identifies "number" := Schema.identity?_eq_some_iff.mp rfl
  have declares : pages.Declares "number" { base := .atomic .int, primary := true } :=
    Schema.descriptor?_eq_some_iff.mp rfl
  refine ⟨identifies, declares, ?_⟩
  have reported := (resolve_reports_exactly_cycles sqlite [("page", pages)]
    { base := .reference "page" }).2.2.2 "page" pages "number" _ rfl identifies declares
      ("parent", { base := .reference "page" }) (by simp [pages]) rfl
  rw [reported]
  rintro ⟨hops, last, repeated, chain, _, _, member⟩
  cases chain with
  | ended => simp at member
  | hop reference _ _ _ _ => simp at reference

def circle : Registry :=
  [("a", { columns := [("id", { base := .reference "b", primary := true })] }),
    ("b", { columns := [("id", { base := .reference "c", primary := true })] }),
    ("c", { columns := [("id", { base := .reference "b", primary := true })] })]

example : sqlite.resolve circle { base := .reference "a" } =
    ⟨[.following "a" "id", .following "b" "id", .following "c" "id"],
      .error (.referenceCycle ["a", "b", "c", "b"])⟩ := by
  cbv

end Dialect

end BoundSql
