import BoundSql.Json

/-! Laying one object over another, member by member: what is found under a name afterwards, and
in which order the names stand. Members that are left out may be left out before or after. -/

namespace BoundSql.Json

def overlaid : Option Json → Json → Json
  | some old, new => merge old new
  | none, new => new

/-- What is under a name after one object is laid over another. -/
def layered? (below : Option Json) : Option Json → Option Json
  | some new => some (overlaid below new)
  | none => below

@[simp] theorem layered?_none_left (above : Option Json) : layered? none above = above := by
  cases above <;> rfl

theorem mergeMembers_cons (base : List (String × Json)) (name : String) (value : Json)
    (rest : List (String × Json)) :
    mergeMembers base ((name, value) :: rest) =
      mergeMembers (Keyed.put name (overlaid (Keyed.find? name base) value) base) rest := by
  cases found : Keyed.find? name base <;> simp [mergeMembers, found, overlaid]

theorem find?_mergeMembers (key : String) (base : List (String × Json))
    {overlay : List (String × Json)} (unique : (Keyed.keys overlay).Nodup) :
    Keyed.find? key (mergeMembers base overlay) =
      layered? (Keyed.find? key base) (Keyed.find? key overlay) := by
  induction overlay generalizing base with
  | nil => simp [mergeMembers, layered?]
  | cons member rest ih =>
      obtain ⟨name, value⟩ := member
      simp only [Keyed.keys, List.map_cons, List.nodup_cons] at unique
      rw [mergeMembers_cons, ih _ unique.2, Keyed.find?_put]
      by_cases same : name = key
      · -- A name stands once, so nothing that follows changes what is put here.
        subst same
        have last : Keyed.find? name rest = none := Keyed.find?_eq_none_iff.mpr unique.1
        simp [Keyed.find?, last, layered?]
      · simp [Keyed.find?, same]

theorem keys_mergeMembers (base : List (String × Json)) {overlay : List (String × Json)}
    (unique : (Keyed.keys overlay).Nodup) :
    Keyed.keys (mergeMembers base overlay) =
      Keyed.keys base ++ (Keyed.keys overlay).filter fun name => name ∉ Keyed.keys base := by
  induction overlay generalizing base with
  | nil => simp [mergeMembers, Keyed.keys]
  | cons member rest ih =>
      obtain ⟨name, value⟩ := member
      obtain ⟨fresh, unique⟩ : name ∉ Keyed.keys rest ∧ (Keyed.keys rest).Nodup :=
        List.nodup_cons.mp unique
      have names : Keyed.keys ((name, value) :: rest) = name :: Keyed.keys rest := rfl
      rw [mergeMembers_cons, ih _ unique, Keyed.keys_put, names]
      by_cases known : name ∈ Keyed.keys base
      · simp [known]
      · have apart : ∀ other ∈ Keyed.keys rest, (other ∉ Keyed.keys base ++ [name]) =
            (other ∉ Keyed.keys base) := by
          intro other member
          have different : other ≠ name := fun same => fresh (same ▸ member)
          simp [different]
        simp only [known, if_false, List.filter_cons, not_false_eq_true, decide_true, if_true,
          List.append_assoc, List.singleton_append]
        exact congrArg _ (congrArg _ (List.filter_congr fun other member => by
          simp only [apart other member]))

theorem keys_mergeMembers_nodup {base overlay : List (String × Json)}
    (unique : (Keyed.keys base).Nodup) : (Keyed.keys (mergeMembers base overlay)).Nodup := by
  induction overlay generalizing base with
  | nil => simpa [mergeMembers] using unique
  | cons member rest ih =>
      rw [mergeMembers_cons]
      exact ih (Keyed.keys_put_nodup _ _ base unique)

def membersOf : Option Json → List (String × Json)
  | some (.object members) => members
  | _ => []

theorem merge_of_not_object {base : Json} (scalar : ∀ members, base ≠ .object members)
    (overlay : Json) : merge base overlay = overlay := by
  cases overlay with
  | object _ =>
      cases base with
      | object members => exact absurd rfl (scalar members)
      | _ => simp [merge]
  | _ => simp [merge]

theorem merge_scalar {overlay : Json} (scalar : ∀ members, overlay ≠ .object members)
    (base : Json) : merge base overlay = overlay := by
  cases overlay with
  | object members => exact absurd rfl (scalar members)
  | _ => simp [merge]

theorem layered?_of_not_object {base : Json} (scalar : ∀ members, base ≠ .object members)
    (above : Option Json) : layered? (some base) above = some (above.getD base) := by
  cases above with
  | none => rfl
  | some new => simp [layered?, overlaid, merge_of_not_object scalar]

theorem layered?_object_eq_some_iff {base result : List (String × Json)} {above : Option Json} :
    layered? (some (.object base)) above = some (.object result) ↔
      (∀ json ∈ above, ∃ members, json = .object members) ∧
        result = mergeMembers base (membersOf above) := by
  cases above with
  | none => simp [layered?, membersOf, mergeMembers, eq_comm]
  | some new => cases new <;> simp [layered?, overlaid, membersOf, merge, eq_comm]

section

variable (keep : String → Bool) (inner : String → Json → Json)

def restrictMembers : List (String × Json) → List (String × Json)
  | [] => []
  | (name, value) :: rest =>
      if keep name then (name, inner name value) :: restrictMembers rest else restrictMembers rest

def restrict : Json → Json
  | .object members => .object (restrictMembers keep inner members)
  | other => other

theorem find?_restrictMembers (name : String) (members : List (String × Json)) :
    Keyed.find? name (restrictMembers keep inner members) =
      if keep name then (Keyed.find? name members).map (inner name) else none := by
  induction members with
  | nil => simp [restrictMembers]
  | cons member rest ih =>
      obtain ⟨other, value⟩ := member
      by_cases same : other = name
      · subst same
        by_cases kept : keep other <;> simp_all [restrictMembers, Keyed.find?]
      · by_cases kept : keep other <;> simp [restrictMembers, Keyed.find?, same, kept, ih]

theorem restrictMembers_put (name : String) (value : Json) (members : List (String × Json)) :
    restrictMembers keep inner (Keyed.put name value members) =
      if keep name then Keyed.put name (inner name value) (restrictMembers keep inner members)
      else restrictMembers keep inner members := by
  induction members with
  | nil => simp [restrictMembers, Keyed.put]
  | cons member rest ih =>
      obtain ⟨other, old⟩ := member
      by_cases same : other = name
      · subst same
        by_cases kept : keep other <;> simp [restrictMembers, Keyed.put, kept]
      · by_cases kept : keep other <;> by_cases wanted : keep name <;>
          simp [restrictMembers, Keyed.put, same, kept, wanted, ih]

variable {inner}
variable (inner_merge : ∀ name old new,
  inner name (merge old new) = merge (inner name old) (inner name new))
include inner_merge

theorem inner_overlaid (name : String) (below : Option Json) (new : Json) :
    inner name (overlaid below new) = overlaid (below.map (inner name)) (inner name new) := by
  cases below with
  | none => rfl
  | some old => exact inner_merge name old new

theorem restrictMembers_mergeMembers (base overlay : List (String × Json)) :
    restrictMembers keep inner (mergeMembers base overlay) =
      mergeMembers (restrictMembers keep inner base) (restrictMembers keep inner overlay) := by
  induction overlay generalizing base with
  | nil => simp [restrictMembers, mergeMembers]
  | cons member rest ih =>
      obtain ⟨name, value⟩ := member
      rw [mergeMembers_cons, ih, restrictMembers_put, restrictMembers]
      by_cases kept : keep name
      · simp [kept, mergeMembers_cons, find?_restrictMembers, inner_overlaid inner_merge]
      · simp [kept]

theorem restrict_merge (base overlay : Json) :
    (merge base overlay).restrict keep inner =
      merge (base.restrict keep inner) (overlay.restrict keep inner) := by
  cases overlay with
  | object members =>
      cases base <;> simp [merge, restrict, restrictMembers_mergeMembers keep inner_merge]
  | _ => simp [merge, restrict]

end

end BoundSql.Json
