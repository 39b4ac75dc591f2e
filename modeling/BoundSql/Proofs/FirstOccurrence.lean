import BoundSql.Predicate.Sql
import BoundSql.Proofs.Meaning

/-! Lists of values without duplicates. The values that are kept are those at the positions before
which no value equals theirs, and a condition on a list is compiled by these values alone. -/

namespace BoundSql

namespace Binary64

theorem isNaN_of_isZero {number : Binary64} (zero : number.isZero = true) :
    number.isNaN = false := by
  simp only [isZero, Bool.and_eq_true, beq_iff_eq] at zero
  simp [isNaN, zero.1]

theorem equals_iff {left right : Binary64} : left.equals right = true ↔
    left = right ∧ left.isNaN = false ∨ left.isZero = true ∧ right.isZero = true := by
  simp only [equals, Bool.and_eq_true, Bool.not_eq_true', Bool.or_eq_true, beq_iff_eq]
  constructor
  · rintro ⟨⟨number, _⟩, same | zeros⟩
    · exact .inl ⟨same, number⟩
    · exact .inr zeros
  · rintro (⟨rfl, number⟩ | ⟨leftZero, rightZero⟩)
    · exact ⟨⟨number, number⟩, .inl rfl⟩
    · exact ⟨⟨isNaN_of_isZero leftZero, isNaN_of_isZero rightZero⟩, .inr ⟨leftZero, rightZero⟩⟩

end Binary64

namespace Value

def isNaN : Value → Bool
  | .double number => number.isNaN
  | _ => false

def isDoubleZero : Value → Bool
  | .double number => number.isZero
  | _ => false

theorem equals_iff {left right : Value} : left.equals right = true ↔
    left = right ∧ left.isNaN = false ∨ left.isDoubleZero = true ∧ right.isDoubleZero = true := by
  cases left with
  | double number =>
      cases right with
      | double other => simp [equals, isNaN, isDoubleZero, Binary64.equals_iff]
      | _ => simp [equals, isDoubleZero]
  | _ => cases right <;> simp [equals, isNaN, isDoubleZero]

theorem isNaN_of_isDoubleZero {value : Value} (zero : value.isDoubleZero = true) :
    value.isNaN = false := by
  cases value with
  | double number => exact Binary64.isNaN_of_isZero zero
  | _ => rfl

theorem isNaN_congr {left right : Value} (equal : left.equals right = true) :
    left.isNaN = right.isNaN := by
  rcases equals_iff.mp equal with ⟨rfl, _⟩ | ⟨leftZero, rightZero⟩
  · rfl
  · rw [isNaN_of_isDoubleZero leftZero, isNaN_of_isDoubleZero rightZero]

theorem equals_of_isNaN {left : Value} (nan : left.isNaN = true) (right : Value) :
    left.equals right = false := by
  rw [Bool.eq_false_iff, ne_eq, equals_iff]
  rintro (⟨_, number⟩ | ⟨zero, _⟩)
  · simp [nan] at number
  · simp [isNaN_of_isDoubleZero zero] at nan

theorem isDoubleZero_congr {left right : Value} (equal : left.equals right = true) :
    left.isDoubleZero = right.isDoubleZero := by
  rcases equals_iff.mp equal with ⟨rfl, _⟩ | ⟨leftZero, rightZero⟩
  · rfl
  · rw [leftZero, rightZero]

theorem isDoubleZero_iff {value : Value} :
    value.isDoubleZero = true ↔ ∃ number, value = .double number ∧ number.isZero = true := by
  cases value <;> simp [isDoubleZero]

theorem ctorIdx_congr {left right : Value} (equal : left.equals right = true) :
    left.ctorIdx = right.ctorIdx := by
  rcases equals_iff.mp equal with ⟨rfl, _⟩ | ⟨leftZero, rightZero⟩
  · rfl
  · obtain ⟨_, rfl, _⟩ := isDoubleZero_iff.mp leftZero
    obtain ⟨_, rfl, _⟩ := isDoubleZero_iff.mp rightZero
    rfl

theorem distinctFrom_append (kept first second : List Value) :
    distinctFrom kept (first ++ second) =
      distinctFrom kept first ++ distinctFrom (kept ++ distinctFrom kept first) second := by
  induction first generalizing kept with
  | nil => simp [distinctFrom]
  | cons value rest ih =>
      by_cases known : kept.any (·.equals value) = true
      · simp [distinctFrom, known, ih]
      · simp [distinctFrom, known, ih]

theorem any_distinct (values : List Value) (value : Value) :
    (distinct values).any (·.equals value) = values.any (·.equals value) := by
  rw [Bool.eq_iff_iff, List.any_eq_true, List.any_eq_true]
  constructor
  · rintro ⟨earlier, kept, equal⟩
    exact ⟨earlier, mem_of_mem_distinctFrom values [] kept, equal⟩
  · rintro ⟨earlier, member, equal⟩
    rcases kept_of_mem values [] member with found | ⟨first, found, same⟩
    · exact ⟨earlier, found, equal⟩
    · exact ⟨first, found, equals_trans first earlier value same equal⟩

theorem distinct_append (first second : List Value) :
    distinct (first ++ second) = distinct first ++ distinctFrom (distinct first) second := by
  simp [distinct, distinctFrom_append]

theorem distinct_append_singleton (values : List Value) (value : Value) :
    distinct (values ++ [value]) =
      distinct values ++ if values.any (·.equals value) then [] else [value] := by
  rw [distinct_append, distinctFrom, any_distinct]
  rfl

theorem distinct_insert {before : List Value} {value : Value}
    (known : before.any (·.equals value) = true) (after : List Value) :
    distinct (before ++ value :: after) = distinct (before ++ after) := by
  have kept : (distinct before).any (·.equals value) = true := by rw [any_distinct, known]
  rw [distinct_append, distinct_append, distinctFrom, if_pos kept]

theorem pairwise_distinct (values : List Value) :
    (distinct values).Pairwise fun left right => left.equals right = false := by
  induction values using List.reverseRecOn with
  | nil => exact .nil
  | append_singleton values value ih =>
      rw [distinct_append_singleton, List.pairwise_append]
      cases known : values.any (·.equals value) with
      | true => simp [ih]
      | false =>
          rw [← any_distinct, List.any_eq_false] at known
          simpa [ih] using known

theorem distinct_of_pairwise {values : List Value}
    (different : values.Pairwise fun left right => left.equals right = false) :
    distinct values = values := by
  induction values using List.reverseRecOn with
  | nil => rfl
  | append_singleton values value ih =>
      obtain ⟨before, _, last⟩ := List.pairwise_append.mp different
      have fresh : values.any (·.equals value) = false := by
        simpa using fun earlier member => last earlier member value (by simp)
      rw [distinct_append_singleton, ih before, fresh]
      rfl

theorem filter_distinct {keeps : Value → Bool}
    (shared : ∀ left right, left.equals right = true → keeps left = keeps right)
    (values : List Value) : (distinct values).filter keeps = distinct (values.filter keeps) := by
  induction values using List.reverseRecOn with
  | nil => rfl
  | append_singleton values value ih =>
      rw [distinct_append_singleton, List.filter_append, List.filter_append, ih]
      cases here : keeps value with
      | false => cases values.any (·.equals value) <;> simp [here]
      | true =>
          have same : (values.filter keeps).any (·.equals value) =
              values.any (·.equals value) := by
            rw [List.any_filter]
            congr 1
            funext earlier
            cases equal : earlier.equals value with
            | false => simp
            | true => simp [shared earlier value equal, here]
          simp only [List.filter_cons, here, if_true, List.filter_nil, distinct_append_singleton,
            same]
          cases values.any (·.equals value) <;> simp [here]

theorem filter_isNaN_distinct (values : List Value) :
    (distinct values).filter isNaN = values.filter isNaN := by
  rw [filter_distinct fun _ _ => isNaN_congr]
  apply distinct_of_pairwise
  apply List.pairwise_of_forall_mem_list
  intro left member right _
  exact equals_of_isNaN (List.mem_filter.mp member).2 right

theorem filter_isDoubleZero_distinct (values : List Value) :
    (distinct values).filter isDoubleZero = (values.filter isDoubleZero).take 1 := by
  rw [filter_distinct fun _ _ => isDoubleZero_congr]
  have zeros : ∀ value ∈ values.filter isDoubleZero, value.isDoubleZero = true :=
    fun value member => (List.mem_filter.mp member).2
  generalize values.filter isDoubleZero = those at zeros
  induction those using List.reverseRecOn with
  | nil => rfl
  | append_singleton earlier last ih =>
      simp only [List.mem_append, List.mem_singleton, or_imp, forall_and, forall_eq] at zeros
      rw [distinct_append_singleton, ih zeros.1]
      cases earlier with
      | nil => rfl
      | cons first rest =>
          have equal : first.equals last = true :=
            equals_iff.mpr (.inr ⟨zeros.1 first (by simp), zeros.2⟩)
          simp [equal]

/-- The position holds a value, and no value before it equals that one. -/
def FirstAt (values : List Value) (position : Nat) : Prop :=
  ∃ value, values[position]? = some value ∧
    ∀ earlier < position, ∀ other, values[earlier]? = some other → other.equals value = false

theorem firstAt_append_iff {values : List Value} {value : Value} {position : Nat} :
    FirstAt (values ++ [value]) position ↔ FirstAt values position ∨
      position = values.length ∧ values.any (·.equals value) = false := by
  rcases Nat.lt_trichotomy position values.length with inside | rfl | outside
  · have same : ∀ earlier ≤ position, (values ++ [value])[earlier]? = values[earlier]? :=
      fun earlier bound => List.getElem?_append_left (by omega)
    have apart : position ≠ values.length := by omega
    simp only [FirstAt, same position (Nat.le_refl position), apart, false_and, or_false]
    refine exists_congr fun found => and_congr_right fun _ => ?_
    refine forall_congr' fun earlier => forall_congr' fun bound => ?_
    rw [same earlier (by omega)]
  · have last : (values ++ [value])[values.length]? = some value := by simp
    have missing : values[values.length]? = none := by simp
    simp only [FirstAt, last, missing, Option.some.injEq, exists_eq_left', reduceCtorEq, false_and,
      exists_false, false_or, true_and, List.any_eq_false, Bool.not_eq_true]
    constructor
    · intro fresh other member
      obtain ⟨earlier, found⟩ := List.mem_iff_getElem?.mp member
      obtain ⟨bound, _⟩ := List.getElem?_eq_some_iff.mp found
      exact fresh earlier bound other (by rw [List.getElem?_append_left bound, found])
    · intro fresh earlier bound other found
      rw [List.getElem?_append_left bound] at found
      exact fresh other (List.mem_of_getElem? found)
  · have missing : (values ++ [value])[position]? = none := by
      rw [List.getElem?_eq_none_iff, List.length_append, List.length_singleton]
      omega
    have missingBefore : values[position]? = none := by
      rw [List.getElem?_eq_none_iff]
      omega
    have apart : position ≠ values.length := by omega
    simp [FirstAt, missing, missingBefore, apart]

theorem exists_firstPositions (values : List Value) :
    ∃ positions : List Nat, positions.Pairwise (· < ·) ∧
      (∀ position, position ∈ positions ↔ FirstAt values position) ∧
      positions.map (fun position => values[position]?) = (distinct values).map some := by
  induction values using List.reverseRecOn with
  | nil => exact ⟨[], .nil, by simp [FirstAt], rfl⟩
  | append_singleton values value ih =>
      obtain ⟨positions, ascending, first, kept⟩ := ih
      have bounded : ∀ position ∈ positions, position < values.length := by
        intro position member
        obtain ⟨_, found, _⟩ := (first position).mp member
        exact (List.getElem?_eq_some_iff.mp found).1
      have same : positions.map (fun position => (values ++ [value])[position]?) =
          (distinct values).map some := by
        rw [← kept]
        exact List.map_congr_left fun position member =>
          List.getElem?_append_left (bounded position member)
      rw [distinct_append_singleton]
      cases known : values.any (·.equals value) with
      | true =>
          refine ⟨positions, ascending, ?_, by simpa using same⟩
          intro position
          simp [firstAt_append_iff, first, known]
      | false =>
          refine ⟨positions ++ [values.length], ?_, ?_, by simp [same]⟩
          · simpa [List.pairwise_append] using ⟨ascending, bounded⟩
          · intro position
            simp [firstAt_append_iff, first, known]

def Several (values : List Value) : Prop :=
  ∃ first second, first < second ∧ FirstAt values first ∧ FirstAt values second

theorem several_iff {values : List Value} : Several values ↔ 2 ≤ (distinct values).length := by
  obtain ⟨positions, ascending, first, kept⟩ := exists_firstPositions values
  have lengths : positions.length = (distinct values).length := by
    simpa using congrArg List.length kept
  simp only [Several, ← first, ← lengths]
  constructor
  · rintro ⟨left, right, before, leftMember, rightMember⟩
    match positions with
    | [] => cases leftMember
    | [single] =>
        rw [List.mem_singleton] at leftMember rightMember
        omega
    | _ :: _ :: _ => simp
  · intro long
    match positions with
    | [] | [_] => simp at long
    | left :: right :: rest =>
        rw [List.pairwise_cons] at ascending
        exact ⟨left, right, ascending.1 right (by simp), by simp, by simp⟩

end Value

namespace Condition

variable (column : String) (operator : Option Operator)

theorem compile_list_congr {values others : List Value}
    (same : Value.distinct values = Value.distinct others) :
    (Condition.mk column operator (.list values)).compile =
      (Condition.mk column operator (.list others)).compile := by
  simp only [compile, ofList, same]

theorem compile_list_singular {values : List Value} {value : Value}
    (single : Value.distinct values = [value]) :
    (Condition.mk column operator (.list values)).compile =
      (Condition.mk column (operator.map Operator.singular) (.scalar value)).compile := by
  simp only [compile, ofList, single]

/-- The values of a list that count are those at the positions before which none equals them:
every NaN, the first of the zeros, and the first of each other value. What a condition on the list
compiles to is decided by these, so duplicates may be left out or put in, and a list with one such
value is compiled as a comparison with it. -/
theorem list_compiles_by_first_occurrences (values : List Value) :
    (∃ positions : List Nat, positions.Pairwise (· < ·) ∧
      (∀ position, position ∈ positions ↔ Value.FirstAt values position) ∧
      positions.map (fun position => values[position]?) = (Value.distinct values).map some) ∧
    ((Value.distinct values).filter Value.isNaN = values.filter Value.isNaN ∧
      (Value.distinct values).filter Value.isDoubleZero =
        (values.filter Value.isDoubleZero).take 1 ∧
      ∀ left right : Value, left.ctorIdx ≠ right.ctorIdx → left.equals right = false) ∧
    Value.distinct (Value.distinct values) = Value.distinct values ∧
    (∀ column operator,
      (Condition.mk column operator (.list (Value.distinct values))).compile =
        (Condition.mk column operator (.list values)).compile ∧
      ∀ before value middle other after, values = before ++ value :: (middle ++ after) →
        value.equals other = true →
          (Condition.mk column operator
            (.list (before ++ value :: (middle ++ other :: after)))).compile =
              (Condition.mk column operator (.list values)).compile) ∧
    ∀ column value, Value.distinct values = [value] →
      (Predicate.isIn column values).compile = (Predicate.eq column value).compile ∧
      (Predicate.compare column .within (.list values)).compile =
        (Predicate.eq column value).compile ∧
      (Predicate.compare column .notWithin (.list values)).compile =
        (Predicate.compare column .ne (.scalar value)).compile ∧
      ∀ operator, operator ≠ .within → operator ≠ .notWithin →
        (Predicate.compare column operator (.list values)).compile =
          (Predicate.compare column operator (.scalar value)).compile := by
  have again : Value.distinct (Value.distinct values) = Value.distinct values :=
    Value.distinct_of_pairwise (Value.pairwise_distinct values)
  refine ⟨Value.exists_firstPositions values, ⟨Value.filter_isNaN_distinct values,
    Value.filter_isDoubleZero_distinct values, ?_⟩, again, ?_, ?_⟩
  · intro left right different
    rw [Bool.eq_false_iff]
    exact fun equal => different (Value.ctorIdx_congr equal)
  · intro column operator
    refine ⟨compile_list_congr column operator again, ?_⟩
    rintro before value middle other after rfl equal
    have known : (before ++ value :: middle).any (·.equals other) = true := by simp [equal]
    have inserted := Value.distinct_insert known after
    rw [List.append_assoc, List.append_assoc] at inserted
    exact compile_list_congr column operator inserted
  · intro column value single
    refine ⟨?_, ?_, ?_, ?_⟩
    · exact compile_list_singular column none single
    · exact compile_list_singular column (some .within) single
    · exact compile_list_singular column (some .notWithin) single
    · intro operator notIn notOut
      have kept : operator.singular = operator := by
        cases operator with
        | within => exact absurd rfl notIn
        | notWithin => exact absurd rfl notOut
        | _ => rfl
      have same := compile_list_singular column (some operator) single
      rw [Option.map_some, kept] at same
      exact same

def groundLevels : List Value := [.double (.zero false), .double (.zero true)]

theorem list_compiles_by_first_occurrences_groundLevels :
    ((Value.int 0).ctorIdx ≠ (Value.double (.zero true)).ctorIdx ∧
      (Value.int 0).equals (.double (.zero true)) = false) ∧
    ((Value.double (.zero true)).equals (.double (.zero false)) = true ∧
      (Condition.mk "level" (some .gt) (.list (groundLevels ++ [.double (.zero false)]))).compile =
        (Condition.mk "level" (some .gt) (.list groundLevels)).compile) ∧
    Value.distinct groundLevels = [.double (.zero false)] ∧
    (Predicate.compare "level" .notWithin (.list groundLevels)).compile =
      (Predicate.compare "level" .ne (.scalar (.double (.zero false)))).compile ∧
    (Predicate.compare "level" .gt (.list groundLevels)).compile =
      (Predicate.compare "level" .gt (.scalar (.double (.zero false)))).compile := by
  have different : (Value.int 0).ctorIdx ≠ (Value.double (.zero true)).ctorIdx := by decide
  have equal : (Value.double (.zero true)).equals (.double (.zero false)) = true := by decide
  have single : Value.distinct groundLevels = [.double (.zero false)] := by decide
  obtain ⟨_, ⟨_, _, kinds⟩, _, compiled, one⟩ := list_compiles_by_first_occurrences groundLevels
  obtain ⟨_, _, negated, others⟩ := one "level" (.double (.zero false)) single
  refine ⟨⟨different, kinds _ _ different⟩, ⟨equal, ?_⟩, single, negated,
    others .gt (by decide) (by decide)⟩
  exact (compiled "level" (some .gt)).2 [.double (.zero false)] (.double (.zero true)) []
    (.double (.zero false)) [] rfl equal

/-- A NaN equals nothing, so each one is bound, and text is no number. -/
example : Value.distinct [.double .nan, .int 1, .double .nan, .text "1", .int 1] =
    [.double .nan, .int 1, .double .nan, .text "1"] := by
  decide

end Condition

end BoundSql
