import BoundSql.Proofs.ClauseOrder
import BoundSql.Proofs.Grammar

/-! Groups without a condition, wherever they stand in a predicate. They leave no trace: neither in
what the predicate compiles to nor in the statement that it belongs to. -/

namespace BoundSql

namespace Predicate

mutual

/-- The predicate without the groups inside it that have no condition. It stays itself, even if it
has none. -/
def prune : Predicate → Predicate
  | .condition leaf => .condition leaf
  | .group connective children => .group connective (pruneChildren children)

def pruneChildren : List Predicate → List Predicate
  | [] => []
  | child :: rest =>
      if child.conditions = [] then pruneChildren rest else child.prune :: pruneChildren rest

end

mutual

def inside : Predicate → List Predicate
  | .condition _ => []
  | .group _ children => insideChildren children

def insideChildren : List Predicate → List Predicate
  | [] => []
  | child :: rest => child :: (child.inside ++ insideChildren rest)

end

mutual

theorem conditions_prune : ∀ predicate : Predicate,
    predicate.prune.conditions = predicate.conditions
  | .condition leaf => by rw [prune]
  | .group connective children => by
      rw [prune, conditions, conditions, childConditions_pruneChildren children]

theorem childConditions_pruneChildren : ∀ children : List Predicate,
    childConditions (pruneChildren children) = childConditions children
  | [] => by rw [pruneChildren]
  | child :: rest => by
      by_cases empty : child.conditions = []
      · rw [pruneChildren, if_pos empty, childConditions, empty, List.nil_append,
          childConditions_pruneChildren rest]
      · rw [pruneChildren, if_neg empty, childConditions, childConditions,
          conditions_prune child, childConditions_pruneChildren rest]

end

mutual

theorem filled_inside_prune : ∀ predicate : Predicate, ∀ inner ∈ predicate.prune.inside,
    inner.conditions ≠ []
  | .condition leaf => by simp [prune, inside]
  | .group connective children => by
      rw [prune, inside]
      exact filled_insideChildren_pruneChildren children

theorem filled_insideChildren_pruneChildren : ∀ children : List Predicate,
    ∀ inner ∈ insideChildren (pruneChildren children), inner.conditions ≠ []
  | [] => by simp [pruneChildren, insideChildren]
  | child :: rest => by
      have others := filled_insideChildren_pruneChildren rest
      by_cases empty : child.conditions = []
      · rw [pruneChildren, if_pos empty]
        exact others
      · rw [pruneChildren, if_neg empty, insideChildren]
        intro inner member
        rcases List.mem_cons.mp member with same | deeper
        · rw [same, conditions_prune child]
          exact empty
        · rcases List.mem_append.mp deeper with here | later
          · exact filled_inside_prune child inner here
          · exact others inner later

end

mutual

theorem prune_of_filled : ∀ predicate : Predicate,
    (∀ inner ∈ predicate.inside, inner.conditions ≠ []) → predicate.prune = predicate
  | .condition leaf, _ => by rw [prune]
  | .group connective children, filled => by
      rw [inside] at filled
      rw [prune, pruneChildren_of_filled children filled]

theorem pruneChildren_of_filled : ∀ children : List Predicate,
    (∀ inner ∈ insideChildren children, inner.conditions ≠ []) → pruneChildren children = children
  | [], _ => by rw [pruneChildren]
  | child :: rest, filled => by
      simp only [insideChildren, List.forall_mem_cons, List.forall_mem_append] at filled
      obtain ⟨here, deeper, later⟩ := filled
      rw [pruneChildren, if_neg here, prune_of_filled child deeper,
        pruneChildren_of_filled rest later]

end

theorem isEmpty_prune (predicate : Predicate) : predicate.prune.isEmpty = predicate.isEmpty := by
  rw [Bool.eq_iff_iff, isEmpty_iff, isEmpty_iff, conditions_prune]

theorem isGroup_prune (predicate : Predicate) : predicate.prune.isGroup = predicate.isGroup := by
  cases predicate with
  | condition leaf => rw [prune]
  | group connective children =>
      rw [prune]
      rfl

mutual

theorem compile_prune : ∀ predicate : Predicate, predicate.prune.compile = predicate.compile
  | .condition leaf => by rw [prune]
  | .group connective children => by
      rw [prune, compile, compile, compileChildren_pruneChildren children]

theorem compileChildren_pruneChildren : ∀ children : List Predicate,
    compileChildren (pruneChildren children) = compileChildren children
  | [] => by rw [pruneChildren]
  | child :: rest => by
      by_cases empty : child.conditions = []
      · rw [pruneChildren, if_pos empty,
          compileChildren_of_isEmpty rest ((isEmpty_iff child).mpr empty),
          compileChildren_pruneChildren rest]
      · have filled : child.isEmpty = false := by
          rw [Bool.eq_false_iff, Ne, isEmpty_iff]
          exact empty
        have placed : child.prune.placed = child.placed := by
          funext fragment
          rw [Predicate.placed, Predicate.placed, isGroup_prune]
        rw [pruneChildren, if_neg empty]
        simp only [compileChildren, isEmpty_prune, filled, compile_prune child,
          compileChildren_pruneChildren rest, placed]

end

theorem compile_blank_iff (predicate : Predicate) :
    (∃ fragment, predicate.compile = .ok fragment ∧ fragment.sql = "") ↔
      predicate.isEmpty = true := by
  constructor
  · rintro ⟨fragment, compiled, blank⟩
    rw [← isBlank_of_compile compiled, Fragment.isBlank, blank]
    rfl
  · intro empty
    exact ⟨[], compile_of_isEmpty empty, rfl⟩

end Predicate

namespace Query

def pruned (query : Query) : Query :=
  { query with predicate := query.predicate.map Predicate.prune }

def unfiltered (query : Query) : Query := { query with predicate := none }

theorem compile_pruned (query : Query) : query.pruned.compile = query.compile := by
  have statement : query.pruned.statement = query.statement := rfl
  have condition : query.pruned.whereClause = query.whereClause := by
    cases given : query.predicate with
    | none => simp only [whereClause, pruned, given, Option.map_none]
    | some predicate =>
        simp only [whereClause, pruned, given, Option.map_some, predicate.compile_prune]
  rw [compile, compile, statement, condition]
  rfl

theorem compile_around_condition {query : Query} {fragment : Fragment}
    (compiled : query.compile = .ok fragment) :
    ∃ statement rest condition, query.bare.compile = .ok statement ∧
      query.unfiltered.compile = .ok (statement ++ rest) ∧ query.condition = .ok condition ∧
      fragment = statement ++
        (if query.carries .condition then .text " WHERE " :: condition else []) ++ rest := by
  obtain ⟨statement, clause, stated, placed, rfl⟩ := compile_ok_iff.mp compiled
  obtain ⟨condition, conditioned, rfl⟩ := whereClause_ok_iff.mp placed
  refine ⟨statement, query.orderClause ++ query.limitClause ++ query.groupClause, condition,
    (compile_bare query).trans stated, ?_, conditioned, ?_⟩
  · exact compile_ok_iff.mpr ⟨statement, [], stated, rfl, by simp; rfl⟩
  · simp only [List.append_assoc]

theorem carries_condition_iff {query : Query} : query.carries .condition = true ↔
    ∃ predicate, query.predicate = some predicate ∧ predicate.isEmpty = false := by
  cases given : query.predicate <;> simp [carries, given]

theorem where_between_iff (statement condition rest : Fragment) (present : Bool) :
    (∃ text, Fragment.sql (statement ++
        (if present then .text " WHERE " :: condition else []) ++ rest) =
      statement.sql ++ " WHERE " ++ text ++ rest.sql) ↔ present = true := by
  cases present with
  | true =>
      refine ⟨fun _ => rfl, fun _ => ⟨condition.sql, ?_⟩⟩
      simp [String.append_assoc]
  | false =>
      refine ⟨?_, by simp⟩
      -- nothing stands between the two, so the text is too short
      rintro ⟨text, same⟩
      have lengths := congrArg String.length same
      have filled : 0 < " WHERE ".length := by decide
      simp only [Bool.false_eq_true, if_false, List.append_nil, Fragment.sql_append,
        String.length_append] at lengths
      omega

/-- Groups without a condition are invisible: pruning them changes neither a predicate's result nor
a statement's, a predicate of nothing else compiles to nothing, and a statement has a condition
exactly if its predicate is not empty. In the text of a condition every connective stands between
operands and no parentheses are empty. -/
theorem empty_groups_leave_no_trace (predicate : Predicate) (query : Query) :
    (predicate.prune.compile = predicate.compile ∧
      predicate.prune.conditions = predicate.conditions ∧
      (∀ inner ∈ predicate.prune.inside, inner.conditions ≠ []) ∧
      ((∀ inner ∈ predicate.inside, inner.conditions ≠ []) → predicate.prune = predicate)) ∧
    ((∃ fragment, predicate.compile = .ok fragment ∧ fragment.sql = "") ↔
      predicate.isEmpty = true) ∧
    (∀ fragment, predicate.compile = .ok fragment → fragment.sql = "" → fragment.values = []) ∧
    (∀ fragment, predicate.compile = .ok fragment → predicate.isEmpty = false →
      ∃ lexemes, fragment.Spells predicate.columns lexemes ∧
        (∀ left connective right, lexemes = left ++ .joint connective :: right →
          (∃ last ∈ left.getLast?, last.ends = true) ∧
            ∃ first ∈ right.head?, first.begins = true) ∧
        ∀ left right, lexemes = left ++ .opening :: right →
          ∃ first ∈ right.head?, first ≠ .closing) ∧
    query.pruned.compile = query.compile ∧
    ∀ fragment, query.compile = .ok fragment →
      ∃ statement rest, query.bare.compile = .ok statement ∧
        query.unfiltered.compile = .ok (statement ++ rest) ∧
        ((∃ condition, fragment.sql = statement.sql ++ " WHERE " ++ condition ++ rest.sql) ↔
          ∃ predicate, query.predicate = some predicate ∧ predicate.isEmpty = false) ∧
        ((∀ predicate, query.predicate = some predicate → predicate.isEmpty = true) →
          fragment = statement ++ rest) ∧
        ∀ predicate, query.predicate = some predicate → predicate.isEmpty = false →
          ∃ condition, predicate.compile = .ok condition ∧ condition.sql ≠ "" ∧
            fragment = statement ++ .text " WHERE " :: condition ++ rest := by
  refine ⟨⟨predicate.compile_prune, predicate.conditions_prune, predicate.filled_inside_prune,
    predicate.prune_of_filled⟩, predicate.compile_blank_iff, ?_, ?_, query.compile_pruned, ?_⟩
  · intro fragment compiled blank
    have empty := predicate.compile_blank_iff.mp ⟨fragment, compiled, blank⟩
    rw [Predicate.compile_of_isEmpty empty, Except.ok.injEq] at compiled
    rw [← compiled]
    rfl
  · intro fragment compiled filled
    obtain ⟨lexemes, spells⟩ := predicate.spells_of_compile fragment compiled filled
    have unbroken := spells.expression.unbroken
    refine ⟨lexemes, spells, ?_, ?_⟩
    · rintro left connective right rfl
      exact unbroken.between_operands
    · rintro left right rfl
      exact unbroken.parentheses_filled
  · intro fragment compiled
    obtain ⟨statement, rest, condition, stated, others, conditioned, rfl⟩ :=
      compile_around_condition compiled
    refine ⟨statement, rest, stated, others, ?_, ?_, ?_⟩
    · rw [where_between_iff, carries_condition_iff]
    · intro empty
      have absent : ¬query.carries .condition = true := by
        rw [carries_condition_iff]
        rintro ⟨given, present, filled⟩
        simp [empty given present] at filled
      rw [if_neg absent, List.append_nil]
    · intro given present filled
      have compiledGiven : given.compile = .ok condition := by
        simpa only [Query.condition, present] using conditioned
      refine ⟨condition, compiledGiven,
        Predicate.compile_sql_ne_empty given condition compiledGiven filled, ?_⟩
      rw [if_pos (carries_condition_iff.mpr ⟨given, present, filled⟩)]

def patchy : Predicate :=
  .any [.all [], .eq "day" (.int 1), .all [.any []],
    .all [.any [], .isIn "hour" [.int 8, .int 9]], .any []]

def patchyVisits : Query where
  operation := .select
  table := "visits"
  predicate := some patchy
  limit := some (.count 5)

theorem empty_groups_leave_no_trace_patchyVisits :
    patchy.prune = .any [.eq "day" (.int 1), .all [.isIn "hour" [.int 8, .int 9]]] ∧
      patchy.prune.compile = patchy.compile ∧
      (∃ fragment, patchy.compile = .ok fragment ∧ fragment.sql = "day = ? OR (hour IN (?, ?))" ∧
        ∃ lexemes, fragment.Spells ["day", "hour"] lexemes) ∧
      (∃ fragment, (Predicate.any [.all [], .any [.all []]]).compile = .ok fragment ∧
        fragment.sql = "" ∧ fragment.values = []) ∧
      ∃ fragment, patchyVisits.compile = .ok fragment ∧
        fragment.sql = "SELECT * FROM visits WHERE day = ? OR (hour IN (?, ?)) LIMIT 5" ∧
        ∃ statement rest condition, patchyVisits.bare.compile = .ok statement ∧
          patchy.compile = .ok condition ∧ condition.sql ≠ "" ∧
          fragment = statement ++ .text " WHERE " :: condition ++ rest := by
  obtain ⟨⟨same, _⟩, _, _, spelled, _, statements⟩ :=
    empty_groups_leave_no_trace patchy patchyVisits
  obtain ⟨_, _, unbound, _⟩ :=
    empty_groups_leave_no_trace (.any [.all [], .any [.all []]]) patchyVisits
  refine ⟨rfl, same, ⟨_, rfl, by decide, ?_⟩, ⟨_, rfl, rfl, unbound _ rfl rfl⟩, _, rfl, by decide,
    ?_⟩
  · obtain ⟨lexemes, spells, _⟩ := spelled _ rfl rfl
    exact ⟨lexemes, spells⟩
  · obtain ⟨statement, rest, stated, _, _, _, filtered⟩ := statements _ rfl
    obtain ⟨condition, compiled, filled, whole⟩ := filtered patchy rfl rfl
    exact ⟨statement, rest, condition, stated, compiled, filled, whole⟩

end Query

end BoundSql
