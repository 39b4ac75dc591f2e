import BoundSql.Error

/-! The earliest fault of a list. Items are looked at from left to right, and the first one that is
at fault gives the error. -/

namespace BoundSql

/-- The error is that of an item at fault, and no item before it is at fault. -/
def Earliest {α : Type} (fault : α → Error → Prop) (items : List α) (error : Error) : Prop :=
  ∃ before item after, items = before ++ item :: after ∧
    (∀ earlier ∈ before, ¬∃ cause, fault earlier cause) ∧ fault item error

section Earliest

variable {α β : Type} {fault : α → Error → Prop}

theorem not_earliest_nil (error : Error) : ¬Earliest fault [] error := by
  rintro ⟨before, item, after, split, _⟩
  simp at split

theorem earliest_cons_iff {first : α} {rest : List α} {error : Error} :
    Earliest fault (first :: rest) error ↔
      fault first error ∨ (¬∃ cause, fault first cause) ∧ Earliest fault rest error := by
  constructor
  · rintro ⟨before, item, after, split, sound, here⟩
    cases before with
    | nil =>
        simp only [List.nil_append, List.cons.injEq] at split
        exact .inl (split.1 ▸ here)
    | cons head others =>
        simp only [List.cons_append, List.cons.injEq] at split
        simp only [List.forall_mem_cons] at sound
        exact .inr ⟨split.1 ▸ sound.1, others, item, after, split.2, sound.2, here⟩
  · rintro (here | ⟨sound, before, item, after, rfl, earlier, later⟩)
    · exact ⟨[], first, rest, rfl, by simp, here⟩
    · refine ⟨first :: before, item, after, rfl, ?_, later⟩
      simp only [List.forall_mem_cons]
      exact ⟨sound, earlier⟩

theorem earliest_singleton_iff {item : α} {error : Error} :
    Earliest fault [item] error ↔ fault item error := by
  simp [earliest_cons_iff, not_earliest_nil]

theorem exists_earliest_iff {items : List α} :
    (∃ error, Earliest fault items error) ↔ ∃ item ∈ items, ∃ error, fault item error := by
  induction items with
  | nil => simp [not_earliest_nil]
  | cons first rest ih =>
      simp only [earliest_cons_iff, List.mem_cons, exists_eq_or_imp, ← ih]
      constructor
      · rintro ⟨error, here | ⟨_, later⟩⟩
        · exact .inl ⟨error, here⟩
        · exact .inr ⟨error, later⟩
      · by_cases faulty : ∃ error, fault first error
        · obtain ⟨error, here⟩ := faulty
          exact fun _ => ⟨error, .inl here⟩
        · rintro (here | ⟨error, later⟩)
          · exact absurd here faulty
          · exact ⟨error, .inr ⟨faulty, later⟩⟩

theorem earliest_congr {other : α → Error → Prop} {items : List α} {error : Error}
    (same : ∀ item ∈ items, ∀ cause, fault item cause ↔ other item cause) :
    Earliest fault items error ↔ Earliest other items error := by
  induction items with
  | nil => simp [not_earliest_nil]
  | cons first rest ih =>
      rw [List.forall_mem_cons] at same
      simp only [earliest_cons_iff, same.1, ih same.2]

theorem earliest_map_iff {change : β → α} {items : List β} {error : Error} :
    Earliest fault (items.map change) error ↔
      Earliest (fun item => fault (change item)) items error := by
  induction items with
  | nil => simp [not_earliest_nil]
  | cons first rest ih => rw [List.map_cons, earliest_cons_iff, earliest_cons_iff, ih]

theorem earliest_append_iff {first second : List α} {error : Error} :
    Earliest fault (first ++ second) error ↔
      Earliest fault first error ∨
        (¬∃ cause, Earliest fault first cause) ∧ Earliest fault second error := by
  induction first with
  | nil => simp [not_earliest_nil]
  | cons head rest ih =>
      simp only [List.cons_append, earliest_cons_iff, ih]
      by_cases faulty : ∃ cause, fault head cause
      · simp only [faulty, not_true_eq_false, false_and, or_false]
      · have sound (cause : Error) : ¬fault head cause := fun here => faulty ⟨cause, here⟩
        simp [sound]

theorem earliest_flatMap_iff {lists : β → List α} {items : List β} {error : Error} :
    Earliest fault (items.flatMap lists) error ↔
      Earliest (fun item => Earliest fault (lists item)) items error := by
  induction items with
  | nil => simp [not_earliest_nil]
  | cons first rest ih => rw [List.flatMap_cons, earliest_append_iff, earliest_cons_iff, ih]

end Earliest

end BoundSql
