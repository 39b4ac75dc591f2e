import BoundSql.Proofs.Composition

/-! Conditions that accumulate. Every filter that is given to a query joins those given before, and
the WHERE clause says of all of them together what each of them says alone: it fails where one of
them fails, binds the values of all, and is their conjunction, whatever groups they are. The same
holds of predicates joined by either connective in any nesting. -/

namespace BoundSql

/-- Predicates joined by one connective, the operands being joined in any nesting. -/
inductive Joined
  | single (predicate : Predicate)
  | pair (left right : Joined)

namespace Joined

def parts : Joined → List Predicate
  | .single predicate => [predicate]
  | .pair left right => left.parts ++ right.parts

def predicate (connective : Connective) : Joined → Predicate
  | .single predicate => predicate
  | .pair left right => (left.predicate connective).combine connective (right.predicate connective)

variable (connective : Connective)

theorem conditions_predicate (joined : Joined) :
    (joined.predicate connective).conditions = joined.parts.flatMap Predicate.conditions := by
  induction joined with
  | single only => simp [predicate, parts]
  | pair left right ihLeft ihRight =>
      rw [predicate, Predicate.conditions_combine, ihLeft, ihRight, parts, List.flatMap_append]

theorem under?_predicate (assignment : Assignment) (joined : Joined) :
    (joined.predicate connective).expression.under? assignment =
      connective.join? (joined.parts.map fun part => part.expression.under? assignment) := by
  induction joined with
  | single only => exact (connective.join?_singleton _).symm
  | pair left right ihLeft ihRight =>
      rw [predicate, Predicate.under?_combine, ihLeft, ihRight, parts, List.map_append,
        Connective.join?_append]

end Joined

theorem exists_forall₂ {α β : Type} {relation : α → β → Prop} {items : List α}
    (every : ∀ item ∈ items, ∃ image, relation item image) :
    ∃ images, List.Forall₂ relation items images := by
  induction items with
  | nil => exact ⟨[], .nil⟩
  | cons first rest ih =>
      simp only [List.forall_mem_cons] at every
      obtain ⟨image, here⟩ := every.1
      obtain ⟨images, others⟩ := ih every.2
      exact ⟨image :: images, .cons here others⟩

theorem Predicate.values_of_forall₂ {parts : List Predicate} {fragments : List Fragment}
    (compiled : List.Forall₂ (fun part fragment => part.compile = .ok fragment) parts fragments) :
    fragments.flatMap Fragment.values =
      (parts.flatMap Predicate.conditions).flatMap Condition.boundValues := by
  induction compiled with
  | nil => rfl
  | cons first _ ih =>
      rw [List.flatMap_cons, List.flatMap_cons, List.flatMap_append, ← ih, compile_values first]
      rfl

namespace Query

def Edit.filter? : Edit → Option Predicate
  | .filter predicate => some predicate
  | _ => none

inductive Gathers (connective : Connective) : List Predicate → Option Predicate → Prop
  | empty : Gathers connective [] none
  | joined (whole : Joined) : Gathers connective whole.parts (some (whole.predicate connective))

theorem Gathers.ofOption (connective : Connective) (predicate : Option Predicate) :
    Gathers connective predicate.toList predicate := by
  cases predicate with
  | none => exact .empty
  | some predicate => exact .joined (.single predicate)

variable {connective : Connective} {query : Query} {parts : List Predicate}

theorem predicate_edit_of_filter?_none {step : Edit} (other : step.filter? = none) :
    (query.edit step).predicate = query.predicate := by
  cases step with
  | filter predicate => simp [Edit.filter?] at other
  | define entry => rw [edit, define_eq]
  | _ => rfl

theorem Gathers.edit (gathers : Gathers .and parts query.predicate) (step : Edit) :
    Gathers .and (parts ++ step.filter?.toList) (query.edit step).predicate := by
  cases added : step.filter? with
  | none =>
      rw [predicate_edit_of_filter?_none added]
      simpa using gathers
  | some predicate =>
      cases step with
      | filter given =>
          simp only [Edit.filter?, Option.some.injEq] at added
          subst added
          simp only [Query.edit, Query.filter]
          cases before : query.predicate with
          | none =>
              rw [before] at gathers
              cases gathers with
              | empty => exact .joined (.single given)
          | some existing =>
              rw [before] at gathers
              cases gathers with
              | joined whole => exact .joined (.pair whole (.single given))
      | _ => simp [Edit.filter?] at added

theorem Gathers.edits (gathers : Gathers .and parts query.predicate) (steps : List Edit) :
    Gathers .and (parts ++ steps.filterMap Edit.filter?) (query.edits steps).predicate := by
  induction steps generalizing query parts with
  | nil => simpa [Query.edits] using gathers
  | cons step rest ih =>
      have following := ih (gathers.edit step)
      rw [List.append_assoc] at following
      have filters : (step :: rest).filterMap Edit.filter? =
          step.filter?.toList ++ rest.filterMap Edit.filter? := by
        cases added : step.filter? <;> simp [added]
      rw [filters]
      exact following

def FirstFailure (parts : List Predicate) (error : Error) : Prop :=
  Earliest (fun part cause => part.compile = .error cause) parts error

/-- The clause says of the parts together what each of them says alone. An empty part has no truth
and does not count. -/
structure JoinsParts (connective : Connective) (parts : List Predicate)
    (clause : Except Error Fragment) : Prop where
  fails_iff : (∃ error, clause = .error error) ↔
    ∃ part ∈ parts, ∃ error, part.compile = .error error
  error_iff : ∀ error, clause = .error error ↔ FirstFailure parts error
  values : ∀ fragment, clause = .ok fragment → ∃ fragments,
    List.Forall₂ (fun part compiled => part.compile = .ok compiled) parts fragments ∧
      fragment.values = fragments.flatMap Fragment.values
  absent : ∀ fragment, clause = .ok fragment →
    (fragment = [] ↔ ∀ part ∈ parts, part.isEmpty = true)
  reads : (∀ part ∈ parts, ∀ column ∈ part.columns, Token.isPlainName column = true) →
    ∀ fragment, clause = .ok fragment → fragment ≠ [] →
      ∃ (condition : Fragment) (expression : Expression) (expressions : List Expression),
        fragment = .text " WHERE " :: condition ∧
        Expression.read condition.sql condition.values = some (expression, []) ∧
        List.Forall₂ (fun part own => ∃ compiled, part.compile = .ok compiled ∧
          Expression.read compiled.sql compiled.values = some (own, [])) parts expressions ∧
        ∀ assignment, expression.under? assignment =
          connective.join? (expressions.map fun own => own.under? assignment)

section Gathered

variable (gathers : Gathers connective parts query.predicate)

include gathers

theorem Gathers.conditions_eq : query.conditions = parts.flatMap Predicate.conditions := by
  cases given : query.predicate with
  | none =>
      rw [given] at gathers
      cases gathers with
      | empty => simp [Query.conditions, given]
  | some predicate =>
      rw [given] at gathers
      cases gathers with
      | joined whole => simp only [Query.conditions, given, whole.conditions_predicate]

theorem Gathers.whereClause_error_iff {error : Error} :
    query.whereClause = .error error ↔ FirstFailure parts error := by
  have same : (fun (part : Predicate) cause => part.compile = .error cause) =
      fun part => Earliest Condition.Fault part.conditions := by
    funext part cause
    exact propext (part.compile_error_iff cause)
  rw [Query.whereClause_error_iff, gathers.conditions_eq, FirstFailure, same]
  exact earliest_flatMap_iff

theorem Gathers.part_compiles {fragment : Fragment} (placed : query.whereClause = .ok fragment) :
    ∀ part ∈ parts, ∃ compiled, part.compile = .ok compiled := by
  intro part member
  rw [ok_iff_not_error]
  intro failed
  have first : ∃ error, FirstFailure parts error :=
    exists_earliest_iff.mpr ⟨part, member, failed⟩
  simp [← gathers.whereClause_error_iff, placed] at first

theorem Gathers.values_of_ok {fragment : Fragment} (placed : query.whereClause = .ok fragment) :
    fragment.values = (parts.flatMap Predicate.conditions).flatMap Condition.boundValues := by
  rw [(whereClause_renders placed).values_eq, ← gathers.conditions_eq]
  cases given : query.predicate with
  | none => simp [conditionValues, Query.conditions, given]
  | some predicate => simp [conditionValues, Query.conditions, given, Predicate.boundValues]

theorem Gathers.isEmpty_iff {predicate : Predicate} (given : query.predicate = some predicate) :
    predicate.isEmpty = true ↔ ∀ part ∈ parts, part.isEmpty = true := by
  have conditions := gathers.conditions_eq
  simp only [Query.conditions, given] at conditions
  simp only [Predicate.isEmpty_iff, conditions, List.flatMap_eq_nil_iff]

theorem Gathers.columns_plain {predicate : Predicate} (given : query.predicate = some predicate)
    (plain : ∀ part ∈ parts, ∀ column ∈ part.columns, Token.isPlainName column = true) :
    ∀ column ∈ predicate.columns, Token.isPlainName column = true := by
  have conditions := gathers.conditions_eq
  simp only [Query.conditions, given] at conditions
  simp only [Predicate.columns, conditions, List.mem_map, List.mem_flatMap]
  rintro column ⟨leaf, ⟨part, member, present⟩, rfl⟩
  exact plain part member leaf.column (List.mem_map_of_mem present)

theorem Gathers.under? {predicate : Predicate} (given : query.predicate = some predicate)
    (assignment : Assignment) : predicate.expression.under? assignment =
      connective.join? (parts.map fun part => part.expression.under? assignment) := by
  rw [given] at gathers
  cases gathers with
  | joined whole => exact whole.under?_predicate connective assignment

theorem Gathers.joinsParts : JoinsParts connective parts query.whereClause where
  fails_iff := by
    simp only [gathers.whereClause_error_iff]
    exact exists_earliest_iff
  error_iff := fun error => gathers.whereClause_error_iff
  values := fun fragment placed => by
    obtain ⟨fragments, compiled⟩ := exists_forall₂ (gathers.part_compiles placed)
    refine ⟨fragments, compiled, ?_⟩
    rw [gathers.values_of_ok placed, Predicate.values_of_forall₂ compiled]
  absent := fun fragment placed => by
    cases given : query.predicate with
    | none =>
        simp only [whereClause, given, Except.ok.injEq] at placed
        rw [given] at gathers
        cases gathers with
        | empty => simp [← placed]
    | some predicate =>
        obtain ⟨condition, compiled, rfl⟩ := condition_of_whereClause given placed
        rw [← gathers.isEmpty_iff given]
        cases predicate.isEmpty <;> simp
  reads := fun plain fragment placed filled => by
    cases given : query.predicate with
    | none => simp [whereClause, given, filled.symm] at placed
    | some predicate =>
        obtain ⟨condition, compiled, rfl⟩ := condition_of_whereClause given placed
        have present : predicate.isEmpty = false := by
          cases empty : predicate.isEmpty with
          | false => rfl
          | true => simp [empty] at filled
        refine ⟨condition, predicate.expression, parts.map Predicate.expression, ?_, ?_, ?_, ?_⟩
        · simp [present]
        · exact Predicate.read_of_compile compiled (gathers.columns_plain given plain)
        · rw [List.forall₂_map_right_iff, List.forall₂_same]
          intro part member
          obtain ⟨own, ownCompiled⟩ := gathers.part_compiles placed part member
          exact ⟨own, ownCompiled, Predicate.read_of_compile ownCompiled (plain part member)⟩
        · intro assignment
          rw [gathers.under? given assignment, List.map_map]
          rfl

end Gathered

/-- Whatever is edited besides, the WHERE clause joins by AND the predicate that the query had and
all filters that it was given. A predicate made of others by one connective, in any nesting, is
joined from them in the same way. -/
theorem whereClause_joins_filters (query : Query) :
    (∀ steps : List Edit, JoinsParts .and (query.predicate.toList ++ steps.filterMap Edit.filter?)
      (query.edits steps).whereClause) ∧
    ∀ (connective : Connective) (whole : Joined), JoinsParts connective whole.parts
      { query with predicate := some (whole.predicate connective) }.whereClause := by
  constructor
  · intro steps
    exact ((Gathers.ofOption .and query.predicate).edits steps).joinsParts
  · intro connective whole
    exact (Gathers.joined whole).joinsParts

def hallBookings : Query where
  operation := .select
  table := "bookings"
  predicate := some (.any [.eq "hall" (.int 1), .eq "hall" (.int 2)])

def bookingEdits : List Edit :=
  [.filter (.all [.any []]), .orderBy ⟨"day", .ascending⟩,
    .filter (.any [.eq "paid" (.bool true), .all [.eq "guest" .null, .eq "day" (.int 3)]])]

theorem whereClause_joins_filters_hallBookings :
    (∃ fragment, (hallBookings.edits bookingEdits).whereClause = .ok fragment ∧
      fragment.sql =
        " WHERE (hall = ? OR hall = ?) AND (paid = ? OR (guest = ? AND day = ?))" ∧
      fragment.values = [.int 1, .int 2, .bool true, .null, .int 3]) ∧
    JoinsParts .and (hallBookings.predicate.toList ++ bookingEdits.filterMap Edit.filter?)
      (hallBookings.edits bookingEdits).whereClause :=
  ⟨⟨_, rfl, by decide, by decide⟩, (whereClause_joins_filters hallBookings).1 bookingEdits⟩

end Query

end BoundSql
