import BoundSql.Json
import Mathlib.Data.List.Forall2
import Mathlib.Data.List.Induction

/-! Entries with repeated keys. Put one after another, they leave one entry for each distinct key,
in the order in which the keys first appear and with the last value under each. This is what
settling makes of the members of an object. -/

namespace BoundSql

namespace Keyed

variable {α β : Type}

def last? (key : String) (entries : List (String × α)) : Option α := find? key entries.reverse

theorem last?_append_singleton (key name : String) (value : α) (entries : List (String × α)) :
    last? key (entries ++ [(name, value)]) =
      if name = key then some value else last? key entries := by
  simp [last?, find?]

theorem ofList_append_singleton (name : String) (value : α) (entries : List (String × α)) :
    ofList (entries ++ [(name, value)]) = put name value (ofList entries) := by
  simp [ofList]

theorem find?_ofList (key : String) (entries : List (String × α)) :
    find? key (ofList entries) = last? key entries := by
  induction entries using List.reverseRecOn with
  | nil => rfl
  | append_singleton before entry ih =>
      obtain ⟨name, value⟩ := entry
      rw [ofList_append_singleton, find?_put, ih, last?_append_singleton]

theorem keys_ofList (entries : List (String × α)) :
    keys (ofList entries) = (keys entries).eraseDups := by
  induction entries using List.reverseRecOn with
  | nil => rfl
  | append_singleton before entry ih =>
      obtain ⟨name, value⟩ := entry
      have names : keys (before ++ [(name, value)]) = keys before ++ [name] := by simp [keys]
      rw [ofList_append_singleton, keys_put, ih, names, List.eraseDups_append]
      by_cases known : name ∈ keys before
      · simp [known, List.removeAll]
      · simp [known, List.removeAll, List.eraseDups_cons]

theorem put_of_not_mem {key : String} (value : α) {entries : Keyed α}
    (fresh : key ∉ keys entries) : put key value entries = entries ++ [(key, value)] := by
  induction entries with
  | nil => rfl
  | cons entry rest ih =>
      obtain ⟨name, old⟩ := entry
      obtain ⟨different, absent⟩ : key ≠ name ∧ key ∉ keys rest := by
        simpa [keys] using fresh
      simp [put, different.symm, ih absent]

theorem ofList_of_nodup {entries : List (String × α)} (unique : (keys entries).Nodup) :
    ofList entries = entries := by
  induction entries using List.reverseRecOn with
  | nil => rfl
  | append_singleton before entry ih =>
      obtain ⟨name, value⟩ := entry
      have names : keys (before ++ [(name, value)]) = keys before ++ [name] := by simp [keys]
      rw [names, List.nodup_append] at unique
      have fresh : name ∉ keys before := fun known => unique.2.2 name known name (by simp) rfl
      rw [ofList_append_singleton, ih unique.1, put_of_not_mem value fresh]

theorem find?_map (change : α → β) (key : String) (entries : List (String × α)) :
    find? key (entries.map fun entry => (entry.1, change entry.2)) =
      (find? key entries).map change := by
  induction entries with
  | nil => rfl
  | cons entry rest ih =>
      by_cases same : entry.1 = key
      · simp [find?, same]
      · simp [find?, same, ih]

theorem last?_map (change : α → β) (key : String) (entries : List (String × α)) :
    last? key (entries.map fun entry => (entry.1, change entry.2)) =
      (last? key entries).map change := by
  rw [last?, ← List.map_reverse, find?_map, last?]

theorem last?_cons (key name : String) (value : α) (entries : List (String × α)) :
    last? key ((name, value) :: entries) =
      (last? key entries).or (if name = key then some value else none) := by
  simp only [last?, List.reverse_cons, find?_eq, List.find?_append, List.find?_singleton,
    Option.map_or]
  by_cases same : name = key <;> simp [same]

theorem last?_of_count_le_one {key : String} {entries : List (String × α)}
    (once : (keys entries).count key ≤ 1) : last? key entries = find? key entries := by
  induction entries with
  | nil => rfl
  | cons entry rest ih =>
      obtain ⟨name, value⟩ := entry
      rw [last?_cons]
      by_cases same : name = key
      · subst same
        have absent : name ∉ keys rest := by
          rw [← List.count_eq_zero]
          simpa [keys] using once
        have later : last? name rest = none := by
          rw [last?, find?_eq_none_iff]
          simpa [keys] using absent
        simp [later, find?]
      · have rare : (keys rest).count key ≤ 1 := by
          simpa [keys, List.count_cons, same] using once
        simp [ih rare, find?, same]

theorem keys_of_forall₂ {related : String × α → String × β → Prop}
    (named : ∀ entry other, related entry other → other.1 = entry.1)
    {entries : List (String × α)} {others : List (String × β)}
    (every : List.Forall₂ related entries others) : keys others = keys entries := by
  induction every with
  | nil => rfl
  | cons first _ ih => simpa [keys, named _ _ first] using ih

end Keyed

namespace Json

abbrev settledMembers (written : List (String × Json)) : List (String × Json) :=
  Keyed.ofList (settleMembers written)

theorem settle_eq_object_iff {json : Json} {members : List (String × Json)} :
    json.settle = .object members ↔
      ∃ written, json = .object written ∧ members = settledMembers written := by
  cases json <;> simp [settle, eq_comm]

theorem settleMembers_eq_map (members : List (String × Json)) :
    settleMembers members = members.map fun member => (member.1, member.2.settle) := by
  induction members with
  | nil => rfl
  | cons member rest ih => rw [settleMembers, ih, List.map_cons]

theorem find?_settled (name : String) (written : List (String × Json)) :
    Keyed.find? name (settledMembers written) =
      (Keyed.last? name written).map settle := by
  rw [Keyed.find?_ofList, settleMembers_eq_map, Keyed.last?_map]

theorem keys_settled (written : List (String × Json)) :
    Keyed.keys (settledMembers written) = (Keyed.keys written).eraseDups := by
  have names : Keyed.keys (settleMembers written) = Keyed.keys written := by
    simp [settleMembers_eq_map, Keyed.keys, Function.comp_def]
  rw [Keyed.keys_ofList, names]

end Json

end BoundSql
