import BoundSql.Query.Statement
import Mathlib.Data.List.Induction

/-! The order of edits. Edits for different parts of a query commute, so a query depends only on the
order in which the edits for each part stand. Table options alone are touched by edits for two
parts: settings have options too, which count only where there are none yet. So options that are set
explicitly win wherever they stand, and otherwise the earliest settings that have any. -/

namespace BoundSql

namespace Query

inductive Part
  | tablePrefix
  | columns
  | fieldValues
  | predicate
  | orderBy
  | limit
  | groupBy
  | joins
  | tableOptions
  deriving DecidableEq

/-- Settings are for the prefix, which they always set. The options that they have are an offer. -/
def Edit.part : Edit → Part
  | .tablePrefix _ | .settings _ => .tablePrefix
  | .columns _ | .rawColumns _ | .definitions _ | .define _ => .columns
  | .assign _ _ => .fieldValues
  | .filter _ => .predicate
  | .orderBy _ => .orderBy
  | .limit _ => .limit
  | .groupBy _ => .groupBy
  | .leftJoin _ _ => .joins
  | .tableOptions _ => .tableOptions

/-- The same edits in an order that is the same among the edits for each part. -/
def Rearranged (steps others : List Edit) : Prop :=
  ∀ part : Part, (steps.filter fun step => step.part = part) =
    others.filter fun step => step.part = part

section Step

variable (query : Query)

theorem withSettings_edit (database : DatabaseSettings) {step : Edit}
    (apart : step.part ≠ .tablePrefix) :
    (query.withSettings database).edit step = (query.edit step).withSettings database := by
  cases step with
  | tablePrefix text => exact absurd rfl apart
  | settings other => exact absurd rfl apart
  | define entry => simp only [edit, define_eq, withSettings]
  | filter predicate => simp only [edit, filter_eq, withSettings]
  | tableOptions text => simp [edit, withSettings]
  | _ => rfl

theorem edit_comm {first second : Edit} (apart : first.part ≠ second.part) :
    (query.edit first).edit second = (query.edit second).edit first := by
  cases first with
  | settings database => exact query.withSettings_edit database apart.symm
  | _ =>
      cases second with
      | settings database => exact (query.withSettings_edit database apart).symm
      -- Any other edit reads and writes nothing but its own part.
      | _ => simp [edit, define_eq, filter_eq, Edit.part] at apart ⊢

end Step

theorem edits_append (query : Query) (front back : List Edit) :
    query.edits (front ++ back) = (query.edits front).edits back :=
  List.foldl_append

theorem edits_edit (query : Query) {step : Edit} {steps : List Edit}
    (apart : ∀ other ∈ steps, other.part ≠ step.part) :
    (query.edit step).edits steps = (query.edits steps).edit step := by
  induction steps generalizing query with
  | nil => rfl
  | cons other rest ih =>
      obtain ⟨here, later⟩ := List.forall_mem_cons.mp apart
      calc (query.edit step).edits (other :: rest)
          = ((query.edit step).edit other).edits rest := rfl
        _ = ((query.edit other).edit step).edits rest := by rw [edit_comm query here]
        _ = ((query.edit other).edits rest).edit step := ih _ later

namespace Rearranged

theorem eq_nil {others : List Edit} (same : Rearranged [] others) : others = [] := by
  cases others with
  | nil => rfl
  | cons step rest => simpa using same step.part

theorem exists_split {step : Edit} {rest others : List Edit}
    (same : Rearranged (step :: rest) others) : ∃ front back,
      others = front ++ step :: back ∧ (∀ other ∈ front, other.part ≠ step.part) ∧
        Rearranged rest (front ++ back) := by
  have own := (same step.part).symm
  rw [List.filter_cons_of_pos (by simp), List.filter_eq_cons_iff] at own
  obtain ⟨front, back, rfl, before, _, _⟩ := own
  have apart : ∀ other ∈ front, other.part ≠ step.part := by simpa using before
  refine ⟨front, back, rfl, apart, ?_⟩
  intro part
  have whole := same part
  by_cases here : step.part = part
  · subst here
    have absent : (front.filter fun other => other.part = step.part) = [] := by simpa using apart
    simpa [absent] using whole
  · simpa [here] using whole

theorem edits_eq (query : Query) {steps others : List Edit} (same : Rearranged steps others) :
    query.edits steps = query.edits others := by
  -- The first edit is moved to the front of the other list, over edits for other parts.
  induction steps generalizing query others with
  | nil => rw [same.eq_nil]
  | cons step rest ih =>
      obtain ⟨front, back, rfl, apart, remaining⟩ := same.exists_split
      calc query.edits (step :: rest)
          = (query.edit step).edits rest := rfl
        _ = (query.edit step).edits (front ++ back) := ih _ remaining
        _ = ((query.edits front).edit step).edits back := by
            rw [edits_append, edits_edit query apart]
        _ = query.edits (front ++ step :: back) := by rw [edits_append]; rfl

end Rearranged

def Edit.tablePrefix? : Edit → Option String
  | .tablePrefix text => some text
  | .settings database => some database.tablePrefix
  | _ => none

def Edit.ownOptions? : Edit → Option String
  | .tableOptions text => some text
  | _ => none

def Edit.offeredOptions? : Edit → Option String
  | .settings database => database.tableOptions
  | _ => none

def lastGiven {α : Type} (given : Edit → Option α) (steps : List Edit) : Option α :=
  steps.reverse.findSome? given

theorem lastGiven_concat {α : Type} (given : Edit → Option α) (front : List Edit)
    (step : Edit) : lastGiven given (front ++ [step]) =
      (given step).or (lastGiven given front) := by
  rw [lastGiven, lastGiven, List.reverse_append, List.findSome?_append]
  simp

section Given

variable (query : Query)

theorem edits_concat (front : List Edit) (step : Edit) :
    query.edits (front ++ [step]) = (query.edits front).edit step :=
  query.edits_append front [step]

theorem operation_edit (step : Edit) : (query.edit step).operation = query.operation := by
  cases step with
  | define entry => rw [edit, define_eq]
  | filter predicate => rw [edit, filter_eq]
  | _ => rfl

theorem operation_edits (steps : List Edit) :
    (query.edits steps).operation = query.operation := by
  induction steps using List.reverseRecOn with
  | nil => rfl
  | append_singleton front step ih => rw [edits_concat, operation_edit, ih]

theorem tablePrefix_edit (step : Edit) :
    (query.edit step).tablePrefix = step.tablePrefix?.getD query.tablePrefix := by
  cases step with
  | define entry => rw [edit, define_eq]; rfl
  | filter predicate => rw [edit, filter_eq]; rfl
  | _ => rfl

theorem tablePrefix_edits (steps : List Edit) : (query.edits steps).tablePrefix =
    (lastGiven Edit.tablePrefix? steps).getD query.tablePrefix := by
  induction steps using List.reverseRecOn with
  | nil => rfl
  | append_singleton front step ih =>
      rw [edits_concat, tablePrefix_edit, ih, lastGiven_concat, Option.getD_or]

theorem tableOptions_edit (step : Edit) : (query.edit step).tableOptions =
    step.ownOptions?.or (query.tableOptions.or
      (if query.operation = .createTable then step.offeredOptions? else none)) := by
  cases step with
  | settings database =>
      cases options : query.tableOptions <;>
        simp [edit, withSettings, Edit.ownOptions?, Edit.offeredOptions?, options]
  | define entry => simp [edit, define_eq, Edit.ownOptions?, Edit.offeredOptions?]
  | filter predicate => simp [edit, filter_eq, Edit.ownOptions?, Edit.offeredOptions?]
  | _ => simp [edit, Edit.ownOptions?, Edit.offeredOptions?]

theorem tableOptions_edits (steps : List Edit) : (query.edits steps).tableOptions =
    (lastGiven Edit.ownOptions? steps).or (query.tableOptions.or
      (if query.operation = .createTable then steps.findSome? Edit.offeredOptions? else none)) := by
  induction steps using List.reverseRecOn with
  | nil => simp [edits, lastGiven]
  | append_singleton front step ih =>
      rw [edits_concat, tableOptions_edit, operation_edits, ih, lastGiven_concat]
      by_cases creates : query.operation = .createTable <;> simp [creates, Option.or_assoc]

end Given

/-- Edits may be rearranged as long as those for each part keep their order. So a query that starts
from nothing has the table options that were last set explicitly, before or after any settings, or
else, if it creates a table, the first that settings have, and the prefix that was last set. -/
theorem edits_commute_between_parts :
    (∀ (query : Query) (steps others : List Edit), Rearranged steps others →
      query.edits steps = query.edits others ∧
        (query.edits steps).compile = (query.edits others).compile) ∧
    ∀ (operation : Operation) (table : String) (steps : List Edit),
      (edits { operation, table } steps).tableOptions =
        (lastGiven Edit.ownOptions? steps).or
          (if operation = .createTable then steps.findSome? Edit.offeredOptions? else none) ∧
      (edits { operation, table } steps).tablePrefix =
        (lastGiven Edit.tablePrefix? steps).getD "" := by
  constructor
  · intro query steps others same
    have edited := same.edits_eq query
    exact ⟨edited, congrArg compile edited⟩
  · intro operation table steps
    constructor
    · rw [tableOptions_edits, Option.none_or]
    · exact tablePrefix_edits _ steps

def stockEdits : List Edit :=
  [.settings { tablePrefix := "old_", tableOptions := some "STRICT" }, .rawColumns "*",
    .define ⟨some "item", "INTEGER"⟩, .filter (.eq "item" (.int 1)), .tablePrefix "shop_",
    .tableOptions "WITHOUT ROWID", .define ⟨none, "PRIMARY KEY (item)"⟩,
    .settings { tablePrefix := "new_" }, .filter (.eq "item" (.int 2))]

def stockEditsByPart : List Edit :=
  [.tableOptions "WITHOUT ROWID", .filter (.eq "item" (.int 1)), .filter (.eq "item" (.int 2)),
    .rawColumns "*", .define ⟨some "item", "INTEGER"⟩, .define ⟨none, "PRIMARY KEY (item)"⟩,
    .settings { tablePrefix := "old_", tableOptions := some "STRICT" }, .tablePrefix "shop_",
    .settings { tablePrefix := "new_" }]

def stock : Query where
  operation := .createTable
  table := "stock"

theorem edits_commute_between_parts_stock :
    Rearranged stockEdits stockEditsByPart ∧
    stock.edits stockEdits = stock.edits stockEditsByPart ∧
    (stock.edits stockEdits).compile = (stock.edits stockEditsByPart).compile ∧
    (stock.edits stockEdits).tableOptions = some "WITHOUT ROWID" ∧
    (stock.edits (stockEdits.filter fun step => step.ownOptions? = none)).tableOptions =
      some "STRICT" ∧
    (stock.edits stockEdits).tablePrefix = "new_" ∧
    ∃ fragment, (stock.edits stockEdits).compile = .ok fragment ∧
      fragment.sql = "CREATE TABLE new_stock (item INTEGER, PRIMARY KEY (item)) WITHOUT ROWID" ++
        " WHERE item = ? AND item = ?" ∧
      fragment.values = [.int 1, .int 2] := by
  have same : Rearranged stockEdits stockEditsByPart := by
    intro part
    cases part <;> rfl
  obtain ⟨rearranged, given⟩ := edits_commute_between_parts
  obtain ⟨edited, compiled⟩ := rearranged stock _ _ same
  obtain ⟨options, tablePrefix⟩ := given .createTable "stock" stockEdits
  obtain ⟨offered, _⟩ := given .createTable "stock"
    (stockEdits.filter fun step => step.ownOptions? = none)
  exact ⟨same, edited, compiled, options, offered, tablePrefix, _, rfl, by decide, by decide⟩

end Query

end BoundSql
