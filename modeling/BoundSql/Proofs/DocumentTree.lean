import BoundSql.Proofs.Entries
import Mathlib.Data.List.Forall2

/-! Predicate documents as trees. The members of an object become children in their order, and a
document is accepted if and only if every entry is. Nothing is lost: the conditions and the groups
of the tree stand for the entries one to one. -/

namespace BoundSql.Predicate

mutual

inductive Reads : String × Json → Predicate → Prop
  | condition {key : String} {json : Json} {operand : Operand} {leaf : Condition} :
      Operand.Denoted json operand → ofKey key operand = .ok (.condition leaf) →
      Reads (key, json) (.condition leaf)
  | group {key : String} {connective : Connective} {members : List (String × Json)}
      {children : List Predicate} :
      KeyHolds key connective.sql.toList → ReadsAll members children →
      Reads (key, .object members) (.group connective children)

inductive ReadsAll : List (String × Json) → List Predicate → Prop
  | nil : ReadsAll [] []
  | cons {member : String × Json} {rest : List (String × Json)} {child : Predicate}
      {others : List Predicate} :
      Reads member child → ReadsAll rest others → ReadsAll (member :: rest) (child :: others)

end

theorem ofMember_ok_iff_of_column {key : String} {json : Json} {predicate : Predicate}
    (column : groupKey? key = none) :
    ofMember key json = .ok predicate ↔ Reads (key, json) predicate := by
  rw [ofMember_of_ofTag?_none json column, bind_eq_ok_iff]
  simp only [Operand.ofJson_eq_ok_iff]
  constructor
  · rintro ⟨operand, given, read⟩
    obtain ⟨leaf, rfl, _⟩ := keyColumn_of_ofKey read
    exact .condition given read
  · intro reads
    cases reads with
    | condition given read => exact ⟨_, given, read⟩
    | group holds _ => exact absurd holds (groupKey?_eq_none_iff.mp column _)

theorem ofMember_ok_iff_of_not_object {key : String} {json : Json} {predicate : Predicate}
    (noObject : ∀ members, json ≠ .object members) :
    ofMember key json = .ok predicate ↔ Reads (key, json) predicate := by
  cases group : groupKey? key with
  | none => exact ofMember_ok_iff_of_column group
  | some connective =>
      rw [ofMember_of_not_object group noObject]
      refine iff_of_false (by simp) ?_
      intro reads
      cases reads with
      | condition _ read => simp [groupKey?_of_ofKey read] at group
      | @group _ _ members _ _ _ => exact noObject members rfl

mutual

theorem ofMember_ok_iff : ∀ (key : String) (json : Json) (predicate : Predicate),
    ofMember key json = .ok predicate ↔ Reads (key, json) predicate
  | key, .object members, predicate => by
      cases group : groupKey? key with
      | none => exact ofMember_ok_iff_of_column group
      | some connective =>
          rw [ofMember_of_ofTag?_some members group, map_eq_ok_iff]
          simp only [ofMembers_ok_iff members]
          constructor
          · rintro ⟨children, all, rfl⟩
            exact .group (groupKey?_eq_some_iff.mp group) all
          · intro reads
            cases reads with
            | condition _ read => simp [groupKey?_of_ofKey read] at group
            | group holds all =>
                rw [groupKey?_eq_some_iff.mpr holds, Option.some.injEq] at group
                exact ⟨_, all, by rw [group]⟩
  | _, .null, _ => ofMember_ok_iff_of_not_object (by simp)
  | _, .bool _, _ => ofMember_ok_iff_of_not_object (by simp)
  | _, .int _, _ => ofMember_ok_iff_of_not_object (by simp)
  | _, .double _, _ => ofMember_ok_iff_of_not_object (by simp)
  | _, .text _, _ => ofMember_ok_iff_of_not_object (by simp)
  | _, .array _, _ => ofMember_ok_iff_of_not_object (by simp)

theorem ofMembers_ok_iff : ∀ (members : List (String × Json)) (children : List Predicate),
    ofMembers members = .ok children ↔ ReadsAll members children
  | [], children => by
      rw [ofMembers, Except.ok.injEq]
      constructor
      · rintro rfl
        exact .nil
      · rintro ⟨⟩
        rfl
  | (key, json) :: rest, children => by
      rw [ofMembers, both_eq_ok_iff]
      simp only [ofMember_ok_iff key json, ofMembers_ok_iff rest]
      constructor
      · rintro ⟨child, others, first, following, rfl⟩
        exact .cons first following
      · intro reads
        cases reads with
        | cons first following => exact ⟨_, _, first, following, rfl⟩

end

mutual

def groups : Predicate → List (Connective × List Predicate)
  | .condition _ => []
  | .group connective children => (connective, children) :: childGroups children

def childGroups : List Predicate → List (Connective × List Predicate)
  | [] => []
  | child :: rest => child.groups ++ childGroups rest

end

structure ConditionOf (entry : String × Json) (leaf : Condition) : Prop where
  operand : Operand.Denoted entry.2 leaf.operand
  read : ofKey entry.1 leaf.operand = .ok (.condition leaf)

structure GroupOf (entry : String × Json) (group : Connective × List Predicate) : Prop where
  key : KeyHolds entry.1 group.1.sql.toList
  object : ∃ members, entry.2 = .object members ∧ ReadsAll members group.2

/-- The conditions stand one to one for the entries that are no groups, and the groups for those
that are. -/
structure Corresponds (items : List (String × Json)) (leaves : List Condition)
    (inner : List (Connective × List Predicate)) : Prop where
  conditions : List.Forall₂ ConditionOf
    (items.filter fun entry => (groupKey? entry.1).isNone) leaves
  groups : List.Forall₂ GroupOf (items.filter fun entry => (groupKey? entry.1).isSome) inner

theorem Corresponds.append {first second : List (String × Json)}
    {leaves others : List Condition} {inner outer : List (Connective × List Predicate)}
    (left : Corresponds first leaves inner) (right : Corresponds second others outer) :
    Corresponds (first ++ second) (leaves ++ others) (inner ++ outer) where
  conditions := by
    rw [List.filter_append]
    exact List.rel_append left.conditions right.conditions
  groups := by
    rw [List.filter_append]
    exact List.rel_append left.groups right.groups

mutual

theorem Reads.corresponds : ∀ {key : String} {json : Json} {child : Predicate},
    Reads (key, json) child → Corresponds (entriesOf key json) child.conditions child.groups
  | key, json, _, .condition given read => by
      obtain ⟨_, same, _, rfl⟩ := keyColumn_of_ofKey read
      cases same
      have column := groupKey?_of_ofKey read
      rw [entriesOf_of_column json column]
      constructor
      · simpa [column, conditions] using ⟨given, read⟩
      · simp [column, groups]
  | key, _, _, .group holds all => by
      have group := groupKey?_eq_some_iff.mpr holds
      have inside := all.corresponds
      rw [entriesOf_of_group _ group]
      constructor
      · simpa [group, conditions] using inside.conditions
      · simpa [group, groups] using ⟨⟨holds, _, rfl, all⟩, inside.groups⟩

theorem ReadsAll.corresponds : ∀ {members : List (String × Json)} {children : List Predicate},
    ReadsAll members children →
      Corresponds (entries members) (childConditions children) (childGroups children)
  | _, _, .nil => ⟨by simp [entries, childConditions], by simp [entries, childGroups]⟩
  | (_, _) :: _, _, .cons first following => first.corresponds.append following.corresponds

end

/-- A group that is alone is the whole tree, and otherwise all children together are. -/
inductive Root : List (String × Json) → List Predicate → Predicate → Prop
  | alone {key : String} {json : Json} {connective : Connective} {children : List Predicate} :
      KeyHolds key connective.sql.toList →
      Root [(key, json)] [.group connective children] (.group connective children)
  | together {members : List (String × Json)} {children : List Predicate} :
      (∀ key json, members = [(key, json)] →
        ∀ connective : Connective, ¬KeyHolds key connective.sql.toList) →
      Root members children (.group .and children)

theorem ofChildren_of_reads {members : List (String × Json)} {children : List Predicate}
    (noGroup : ∀ key json, members = [(key, json)] →
      ∀ connective : Connective, ¬KeyHolds key connective.sql.toList)
    (reads : ReadsAll members children) : ofChildren children = .group .and children := by
  cases reads with
  | nil => rfl
  | @cons member rest child others first following =>
      cases following with
      | nil =>
          cases first with
          | condition _ _ => rfl
          | group holds _ => exact absurd holds (noGroup _ _ rfl _)
      | cons _ _ => cases child <;> rfl

theorem root_iff {members : List (String × Json)} {children : List Predicate}
    {predicate : Predicate} (reads : ReadsAll members children) :
    Root members children predicate ↔ ofChildren children = predicate := by
  constructor
  · intro root
    cases root with
    | alone _ => rfl
    | together noGroup => exact ofChildren_of_reads noGroup reads
  · rintro rfl
    -- A single child is a group exactly if its key is that of a group.
    by_cases alone : ∃ key json, members = [(key, json)] ∧
        ∃ connective : Connective, KeyHolds key connective.sql.toList
    · obtain ⟨key, json, rfl, connective, holds⟩ := alone
      cases reads with
      | cons first following =>
          cases following
          cases first with
          | condition _ read =>
              have column := groupKey?_of_ofKey read
              exact absurd holds (groupKey?_eq_none_iff.mp column connective)
          | group holds _ => exact .alone holds
    · have noGroup : ∀ key json, members = [(key, json)] →
          ∀ connective : Connective, ¬KeyHolds key connective.sql.toList :=
        fun key json same connective holds => alone ⟨key, json, same, connective, holds⟩
      rw [ofChildren_of_reads noGroup reads]
      exact .together noGroup

theorem ofJson_of_not_object {json : Json} (noObject : ∀ members, json ≠ .object members) :
    ofJson json = .error (.treeNotObject json) := by
  cases json with
  | object members => exact absurd rfl (noObject members)
  | _ => rfl

theorem ofJson_object_ok_iff {members : List (String × Json)} {predicate : Predicate} :
    ofJson (.object members) = .ok predicate ↔
      ∃ children, ReadsAll members children ∧ Root members children predicate := by
  rw [ofJson, map_eq_ok_iff]
  apply exists_congr
  intro children
  rw [ofMembers_ok_iff]
  exact and_congr_right fun reads => (root_iff reads).symm

theorem ofJson_object_error_iff {members : List (String × Json)} {error : Error} :
    ofJson (.object members) = .error error ↔ Earliest EntryFault (entries members) error := by
  rw [ofJson, map_eq_error_iff, ofMembers_error_iff]

theorem Root.conditions {members : List (String × Json)} {children : List Predicate}
    {predicate : Predicate} (root : Root members children predicate) :
    predicate.conditions = childConditions children := by
  cases root with
  | alone _ => simp [Predicate.conditions, childConditions]
  | together _ => rfl

theorem Corresponds.keyColumn {items : List (String × Json)} {leaves : List Condition}
    {inner : List (Connective × List Predicate)} (corresponds : Corresponds items leaves inner) :
    ∀ leaf ∈ leaves, KeyColumn leaf.column := by
  have named : List.Forall₂ (fun leaf entry => KeyColumn leaf.column ∧ ConditionOf entry leaf)
      leaves (items.filter fun entry => (groupKey? entry.1).isNone) :=
    corresponds.conditions.flip.imp fun leaf entry stands => by
      obtain ⟨_, same, column, _⟩ := keyColumn_of_ofKey stands.read
      cases same
      exact ⟨column, stands⟩
  exact ((List.forall₂_and_left _ _).mp named).1

theorem list_of_compile_error {predicate : Predicate} {error : Error}
    (columns : ∀ leaf ∈ predicate.conditions, KeyColumn leaf.column)
    (failed : predicate.compile = .error error) : error ≠ .emptyColumn ∧
      ∃ leaf ∈ predicate.conditions, leaf.Fault error ∧ ∃ values, leaf.operand = .list values := by
  obtain ⟨before, leaf, after, split, _, fault⟩ := (compile_error_iff predicate error).mp failed
  have member : leaf ∈ predicate.conditions := by simp [split]
  cases fault with
  | unnamed empty => exact absurd empty (columns leaf member).named
  | noValue named operand => exact ⟨by simp, leaf, member, .noValue named operand, [], operand⟩
  | severalValues values operator named operand written notIn notOut several =>
      exact ⟨by simp, leaf, member,
        .severalValues values operator named operand written notIn notOut several, values, operand⟩

structure Loaded (members : List (String × Json)) (predicate : Predicate) : Prop where
  tree : ∃ children, ReadsAll members children ∧ Root members children predicate ∧
    Corresponds (entries members) predicate.conditions (childGroups children)
  columns : ∀ column ∈ predicate.columns, KeyColumn column
  compiles : ∀ error, predicate.compile = .error error → error ≠ .emptyColumn ∧
    ∃ leaf ∈ predicate.conditions, leaf.Fault error ∧ ∃ values, leaf.operand = .list values

theorem ofJson_object_iff_loaded {members : List (String × Json)} {predicate : Predicate} :
    ofJson (.object members) = .ok predicate ↔ Loaded members predicate := by
  rw [ofJson_object_ok_iff]
  constructor
  · rintro ⟨children, reads, root⟩
    have corresponds := reads.corresponds
    rw [← root.conditions] at corresponds
    refine ⟨⟨children, reads, root, corresponds⟩, ?_, ?_⟩
    · simpa [columns] using corresponds.keyColumn
    · exact fun error => list_of_compile_error corresponds.keyColumn
  · intro loaded
    obtain ⟨children, reads, root, _⟩ := loaded.tree
    exact ⟨children, reads, root⟩

/-- Which documents are read, as what trees, and with what errors all others are refused. -/
theorem ofJson_loads_exactly (json : Json) :
    ((∃ predicate, ofJson json = .ok predicate) ↔
      ∃ members, json = .object members ∧ ∀ entry ∈ entries members, Accepted entry) ∧
    (∀ predicate, ofJson json = .ok predicate ↔
      ∃ members, json = .object members ∧ Loaded members predicate) ∧
    (∀ error, ofJson json = .error error ↔
      (∀ members, json ≠ .object members) ∧ error = .treeNotObject json ∨
        ∃ members, json = .object members ∧ Earliest EntryFault (entries members) error) ∧
    ∀ error, ofJson json = .error error → error.category = .malformedPredicate := by
  by_cases object : ∃ members, json = .object members
  · obtain ⟨members, rfl⟩ := object
    refine ⟨?_, ?_, ?_, ?_⟩
    · rw [ok_iff_not_error]
      simp [ofJson_object_error_iff, exists_earliest_iff, accepted_iff]
    · simp [ofJson_object_iff_loaded]
    · simp [ofJson_object_error_iff]
    · exact fun error failed => category_of_earliest (ofJson_object_error_iff.mp failed)
  · have noObject : ∀ members, json ≠ .object members := fun members same => object ⟨members, same⟩
    rw [ofJson_of_not_object noObject]
    refine ⟨?_, ?_, ?_, ?_⟩
    · simp [noObject]
    · simp [noObject]
    · simp [noObject, eq_comm]
    · rintro error ⟨⟩
      rfl

def seating : List (String × Json) :=
  [("row >=#1", .int 3), (" AND #2", .object [("state", .null), ("OR", .object [])]),
    ("block not\tin", .array [.text "A", .bool true])]

def seatingTree : Predicate :=
  all [compare "row" .ge (.scalar (.int 3)), all [eq "state" .null, any []],
    compare "block" .notWithin (.list [.text "A", .bool true])]

def misplaced : List (String × Json) :=
  [("row >=#1", .int 3), ("AND", .object [("state", .null), ("AND =", .int 1)]),
    ("block", .object [])]

theorem ofJson_loads_exactly_seating :
    Loaded seating seatingTree ∧
      Earliest EntryFault (entries misplaced) (.connectiveAsColumn "AND") := by
  have read : ofJson (.object seating) = .ok seatingTree := rfl
  have failed : ofJson (.object misplaced) = .error (.connectiveAsColumn "AND") := rfl
  obtain ⟨_, loads, _, _⟩ := ofJson_loads_exactly (.object seating)
  obtain ⟨members, same, loaded⟩ := (loads seatingTree).mp read
  obtain ⟨_, _, fails, _⟩ := ofJson_loads_exactly (.object misplaced)
  rcases (fails (.connectiveAsColumn "AND")).mp failed with ⟨noObject, _⟩ | ⟨others, equal, first⟩
  · exact absurd rfl (noObject misplaced)
  · cases same
    cases equal
    exact ⟨loaded, first⟩

end BoundSql.Predicate
