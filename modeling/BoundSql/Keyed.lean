/-! Entries under text keys, in the order in which the keys first appeared. Putting a value
under a key that is present keeps its position, and reading sees the last value put. -/

namespace BoundSql

abbrev Keyed (α : Type) := List (String × α)

namespace Keyed

variable {α : Type}

def find? (key : String) : Keyed α → Option α
  | [] => none
  | (name, value) :: rest => if name = key then some value else find? key rest

def put (key : String) (value : α) : Keyed α → Keyed α
  | [] => [(key, value)]
  | (name, old) :: rest =>
      if name = key then (key, value) :: rest else (name, old) :: put key value rest

def erase (key : String) : Keyed α → Keyed α
  | [] => []
  | (name, value) :: rest => if name = key then rest else (name, value) :: erase key rest

def keys (entries : Keyed α) : List String := entries.map Prod.fst

/-- Puts the entries one after another, so a repeated key keeps its first position and its
last value. -/
def ofList (entries : List (String × α)) : Keyed α :=
  entries.foldl (fun known entry => put entry.1 entry.2 known) []

@[simp] theorem find?_nil (key : String) : find? key ([] : Keyed α) = none := rfl

theorem find?_eq (key : String) (entries : Keyed α) :
    find? key entries =
      (List.find? (fun entry => decide (entry.1 = key)) entries).map Prod.snd := by
  induction entries with
  | nil => rfl
  | cons entry rest ih =>
      by_cases same : entry.1 = key
      · simp [find?, same]
      · simp [find?, same, ih]

theorem mem_of_find? {key : String} {value : α} {entries : Keyed α}
    (found : find? key entries = some value) : (key, value) ∈ entries := by
  induction entries with
  | nil => simp at found
  | cons entry rest ih =>
      obtain ⟨name, old⟩ := entry
      by_cases same : name = key
      · simp_all [find?]
      · exact List.mem_cons_of_mem _ (ih (by simpa [find?, same] using found))

theorem mem_keys_of_find? {key : String} {value : α} {entries : Keyed α}
    (found : find? key entries = some value) : key ∈ keys entries :=
  List.mem_map_of_mem (mem_of_find? found)

theorem find?_eq_none_iff {key : String} {entries : Keyed α} :
    find? key entries = none ↔ key ∉ keys entries := by
  constructor
  · intro missing present
    obtain ⟨entry, member, same⟩ := List.mem_map.mp present
    simp only [find?_eq, Option.map_eq_none_iff, List.find?_eq_none] at missing
    simpa [same] using missing entry member
  · intro absent
    cases found : find? key entries with
    | none => rfl
    | some value => exact absurd (mem_keys_of_find? found) absent

theorem mem_keys_iff {key : String} {entries : Keyed α} :
    key ∈ keys entries ↔ ∃ value, find? key entries = some value := by
  rw [← Option.ne_none_iff_exists', Ne, find?_eq_none_iff, Decidable.not_not]

theorem find?_of_mem {key : String} {value : α} {entries : Keyed α}
    (unique : (keys entries).Nodup) (member : (key, value) ∈ entries) :
    find? key entries = some value := by
  induction entries with
  | nil => simp at member
  | cons entry rest ih =>
      obtain ⟨name, old⟩ := entry
      simp only [keys, List.map_cons, List.nodup_cons] at unique
      rcases List.mem_cons.mp member with first | later
      · cases first
        simp [find?]
      · have different : name ≠ key := fun same =>
          unique.1 (same ▸ List.mem_map_of_mem later)
        simpa [find?, different] using ih unique.2 later

theorem find?_put (key other : String) (value : α) (entries : Keyed α) :
    find? other (put key value entries) =
      if key = other then some value else find? other entries := by
  induction entries with
  | nil => simp [put, find?]
  | cons entry rest ih =>
      obtain ⟨name, old⟩ := entry
      by_cases same : name = key
      · subst same
        by_cases wanted : name = other <;> simp [put, find?, wanted]
      · by_cases wanted : name = other
        · subst wanted
          simp [put, find?, same, Ne.symm same]
        · simp [put, find?, same, wanted, ih]

theorem keys_put (key : String) (value : α) (entries : Keyed α) :
    keys (put key value entries) =
      if key ∈ keys entries then keys entries else keys entries ++ [key] := by
  induction entries with
  | nil => simp [put, keys]
  | cons entry rest ih =>
      obtain ⟨name, old⟩ := entry
      by_cases same : name = key
      · simp [put, keys, same]
      · have different : ¬key = name := Ne.symm same
        simp only [keys] at ih
        by_cases member : key ∈ rest.map Prod.fst
        · simp [put, keys, same, ih, member]
        · simp [put, keys, same, different, ih, member]

theorem keys_put_nodup (key : String) (value : α) (entries : Keyed α)
    (unique : (keys entries).Nodup) : (keys (put key value entries)).Nodup := by
  rw [keys_put]
  by_cases member : key ∈ keys entries
  · simpa [member] using unique
  · simp only [member, if_false]
    rw [List.nodup_append]
    refine ⟨unique, by simp, ?_⟩
    intro name present other last same
    simp only [List.mem_singleton] at last
    exact member (last ▸ same ▸ present)

theorem mem_of_mem_put {key : String} {value : α} {entries : Keyed α} {entry : String × α}
    (member : entry ∈ put key value entries) : entry = (key, value) ∨ entry ∈ entries := by
  induction entries with
  | nil => simpa [put] using member
  | cons first rest ih =>
      obtain ⟨name, old⟩ := first
      by_cases same : name = key
      · simp only [put, same, if_true, List.mem_cons] at member
        exact member.imp_right (List.mem_cons_of_mem _)
      · simp only [put, same, if_false, List.mem_cons] at member
        rcases member with first | later
        · exact .inr (List.mem_cons.mpr (.inl first))
        · exact (ih later).imp_right (List.mem_cons_of_mem _)

theorem erase_sublist (key : String) (entries : Keyed α) :
    (erase key entries).Sublist entries := by
  induction entries with
  | nil => exact .slnil
  | cons entry rest ih =>
      by_cases same : entry.1 = key
      · simp [erase, same]
      · simpa [erase, same] using ih

theorem keys_ofList_nodup (entries : List (String × α)) : (keys (ofList entries)).Nodup := by
  suffices every : ∀ known : Keyed α, (keys known).Nodup →
      (keys (entries.foldl (fun known entry => put entry.1 entry.2 known) known)).Nodup from
    every [] List.nodup_nil
  induction entries with
  | nil => exact fun _ unique => unique
  | cons entry rest ih => exact fun known unique => ih _ (keys_put_nodup _ _ known unique)

theorem mem_of_mem_ofList {entries : List (String × α)} {entry : String × α}
    (member : entry ∈ ofList entries) : entry ∈ entries := by
  suffices every : ∀ known : Keyed α,
      entry ∈ entries.foldl (fun known entry => put entry.1 entry.2 known) known →
        entry ∈ known ∨ entry ∈ entries from
    (every [] member).resolve_left List.not_mem_nil
  clear member
  induction entries with
  | nil => exact fun _ member => .inl member
  | cons first rest ih =>
      intro known member
      rcases ih _ member with earlier | later
      · rcases mem_of_mem_put earlier with put | old
        · exact .inr (List.mem_cons.mpr (.inl put))
        · exact .inl old
      · exact .inr (List.mem_cons_of_mem _ later)

theorem eq_of_find? {first second : Keyed α} (unique : (keys first).Nodup)
    (sameKeys : keys first = keys second) (same : ∀ key, find? key first = find? key second) :
    first = second := by
  induction first generalizing second with
  | nil =>
      cases second with
      | nil => rfl
      | cons entry rest => simp [keys] at sameKeys
  | cons entry rest ih =>
      cases second with
      | nil => simp [keys] at sameKeys
      | cons other others =>
          obtain ⟨name, value⟩ := entry
          obtain ⟨otherName, otherValue⟩ := other
          obtain ⟨rfl, restKeys⟩ : name = otherName ∧ keys rest = keys others :=
            List.cons.inj sameKeys
          obtain ⟨fresh, restUnique⟩ : name ∉ keys rest ∧ (keys rest).Nodup :=
            List.nodup_cons.mp unique
          obtain rfl : value = otherValue := by simpa [find?] using same name
          have restSame : ∀ key, find? key rest = find? key others := by
            intro key
            by_cases here : name = key
            · subst here
              rw [find?_eq_none_iff.mpr fresh, find?_eq_none_iff.mpr (restKeys ▸ fresh)]
            · simpa [find?, here] using same key
          rw [ih restUnique restKeys restSame]

end Keyed

end BoundSql
