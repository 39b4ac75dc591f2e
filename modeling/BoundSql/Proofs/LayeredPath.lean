import BoundSql.Proofs.Layering

/-! Values under paths of keys. What a path leads to after one value is laid over another is told by
what it leads to in each of them, at every depth, so laying the same value over a second time
changes nothing. -/

namespace BoundSql.Json

def valueAt? (json : Json) : List String → Option Json
  | [] => some json
  | key :: rest =>
      match json with
      | .object members => (Keyed.find? key members).bind fun value => value.valueAt? rest
      | _ => none

def EndsAt (json : Json) (path : List String) : Prop :=
  ∃ value, json.valueAt? path = some value ∧ ∀ members, value ≠ .object members

def LeavesOut (json : Json) (path : List String) (key : String) : Prop :=
  ∃ members, json.valueAt? path = some (.object members) ∧ key ∉ Keyed.keys members

/-- At every step up to the end of the path there is an object. -/
def OpenTo (json : Json) (path : List String) : Prop :=
  ∀ step, step <+: path → ∃ members, json.valueAt? step = some (.object members)

@[simp] theorem valueAt?_nil (json : Json) : json.valueAt? [] = some json := by
  cases json <;> rfl

theorem valueAt?_object (members : List (String × Json)) (key : String) (rest : List String) :
    (object members).valueAt? (key :: rest) =
      (Keyed.find? key members).bind fun value => value.valueAt? rest := rfl

theorem valueAt?_of_not_object {json : Json} (scalar : ∀ members, json ≠ .object members)
    (key : String) (rest : List String) : json.valueAt? (key :: rest) = none := by
  cases json with
  | object members => exact absurd rfl (scalar members)
  | _ => rfl

theorem valueAt?_append (json : Json) (first second : List String) :
    json.valueAt? (first ++ second) =
      (json.valueAt? first).bind fun value => value.valueAt? second := by
  induction first generalizing json with
  | nil => simp
  | cons key rest ih =>
      cases json with
      | object members =>
          rw [List.cons_append, valueAt?_object, valueAt?_object, Option.bind_assoc]
          exact congrArg _ (funext fun value => ih value)
      | _ => rfl

theorem valueAt?_cons_eq_some_iff {json value : Json} {key : String} {rest : List String} :
    json.valueAt? (key :: rest) = some value ↔
      ∃ members child, json = .object members ∧ Keyed.find? key members = some child ∧
        child.valueAt? rest = some value := by
  cases json with
  | object members => simp [valueAt?_object, Option.bind_eq_some_iff]
  | _ => simp [valueAt?]

theorem Settled.valueAt? {json value : Json} {path : List String} (settled : json.Settled)
    (found : json.valueAt? path = some value) : value.Settled := by
  induction path generalizing json with
  | nil =>
      rw [valueAt?_nil, Option.some.injEq] at found
      exact found ▸ settled
  | cons key rest ih =>
      obtain ⟨members, child, rfl, present, below⟩ := valueAt?_cons_eq_some_iff.mp found
      exact ih (settled.find? present) below

theorem openTo_iff {json : Json} {path : List String} :
    json.OpenTo path ↔ ∃ members, json.valueAt? path = some (.object members) := by
  constructor
  · exact fun opens => opens path (List.prefix_refl path)
  · rintro ⟨members, found⟩ step ⟨rest, rfl⟩
    rw [valueAt?_append] at found
    obtain ⟨value, atStep, below⟩ := Option.bind_eq_some_iff.mp found
    cases rest with
    | nil =>
        rw [valueAt?_nil, Option.some.injEq] at below
        exact ⟨members, below ▸ atStep⟩
    | cons key others =>
        obtain ⟨inner, _, rfl, _, _⟩ := valueAt?_cons_eq_some_iff.mp below
        exact ⟨inner, atStep⟩

theorem exists_valueAt?_or (json : Json) (path : List String) :
    (∃ value, json.valueAt? path = some value) ∨ ∃ before key after, path = before ++ key :: after ∧
      (json.EndsAt before ∨ json.LeavesOut before key) := by
  induction path generalizing json with
  | nil => exact .inl ⟨json, valueAt?_nil json⟩
  | cons key rest ih =>
      by_cases isObject : ∃ members, json = .object members
      · obtain ⟨members, rfl⟩ := isObject
        cases present : Keyed.find? key members with
        | none =>
            exact .inr ⟨[], key, rest, rfl, .inr ⟨members, rfl, Keyed.find?_eq_none_iff.mp present⟩⟩
        | some child =>
            have onward : ∀ path,
                (object members).valueAt? (key :: path) = child.valueAt? path := by
              intro path
              rw [valueAt?_object, present, Option.bind_some]
            rcases ih child with ⟨value, found⟩ | ⟨before, next, after, rfl, halted⟩
            · exact .inl ⟨value, (onward rest).trans found⟩
            · refine .inr ⟨key :: before, next, after, rfl, ?_⟩
              simpa only [EndsAt, LeavesOut, onward] using halted
      · refine .inr ⟨[], key, rest, rfl, .inl ⟨json, valueAt?_nil json, ?_⟩⟩
        exact fun members same => isObject ⟨members, same⟩

theorem valueAt?_merge {base overlay new : Json} {path : List String} (settled : overlay.Settled)
    (found : overlay.valueAt? path = some new) :
    (merge base overlay).valueAt? path = some (overlaid (base.valueAt? path) new) := by
  induction path generalizing base overlay with
  | nil =>
      rw [valueAt?_nil, Option.some.injEq] at found
      rw [valueAt?_nil, valueAt?_nil, found, overlaid]
  | cons key rest ih =>
      obtain ⟨news, child, rfl, present, below⟩ := valueAt?_cons_eq_some_iff.mp found
      by_cases isObject : ∃ olds, base = .object olds
      · obtain ⟨olds, rfl⟩ := isObject
        have unique := (settled_object_iff.mp settled).1
        have merged : merge (.object olds) (.object news) = .object (mergeMembers olds news) := by
          rw [merge]
        rw [merged, valueAt?_object, valueAt?_object, find?_mergeMembers key olds unique, present,
          layered?, Option.bind_some]
        cases Keyed.find? key olds with
        | none => exact below
        | some old => exact ih (settled.find? present) below
      · have scalar : ∀ olds, base ≠ .object olds := fun olds same => isObject ⟨olds, same⟩
        rw [merge_of_not_object scalar, found, valueAt?_of_not_object scalar, overlaid]

theorem valueAt?_merge_of_endsAt {base overlay : Json} {before : List String}
    (settled : overlay.Settled) (ends : overlay.EndsAt before) (key : String)
    (after : List String) : (merge base overlay).valueAt? (before ++ key :: after) = none := by
  obtain ⟨value, found, scalar⟩ := ends
  have stays : overlaid (base.valueAt? before) value = value := by
    cases base.valueAt? before with
    | none => rfl
    | some old => exact merge_scalar scalar old
  rw [valueAt?_append, valueAt?_merge settled found, stays, Option.bind_some,
    valueAt?_of_not_object scalar]

section LeftOut

variable {base overlay : Json} {before : List String} {key : String} (settled : overlay.Settled)
  (leaves : overlay.LeavesOut before key) (after : List String)

include settled leaves

theorem valueAt?_merge_of_leavesOut (opens : base.OpenTo before) :
    (merge base overlay).valueAt? (before ++ key :: after) =
      base.valueAt? (before ++ key :: after) := by
  obtain ⟨news, found, missing⟩ := leaves
  obtain ⟨olds, present⟩ := openTo_iff.mp opens
  have unique := (settled_object_iff.mp (settled.valueAt? found)).1
  have merged : overlaid (some (object olds)) (object news) = object (mergeMembers olds news) := by
    rw [overlaid, merge]
  rw [valueAt?_append, valueAt?_append, valueAt?_merge settled found, present, merged,
    Option.bind_some, Option.bind_some, valueAt?_object, valueAt?_object,
    find?_mergeMembers key olds unique, Keyed.find?_eq_none_iff.mpr missing, layered?]

theorem valueAt?_merge_of_leavesOut_of_not_open (closed : ¬base.OpenTo before) :
    (merge base overlay).valueAt? (before ++ key :: after) = none := by
  obtain ⟨news, found, missing⟩ := leaves
  have stays : overlaid (base.valueAt? before) (object news) = object news := by
    cases present : base.valueAt? before with
    | none => rfl
    | some old =>
        apply merge_of_not_object
        rintro members rfl
        exact closed (openTo_iff.mpr ⟨members, present⟩)
  rw [valueAt?_append, valueAt?_merge settled found, stays, Option.bind_some, valueAt?_object,
    Keyed.find?_eq_none_iff.mpr missing, Option.bind_none]

end LeftOut

mutual

theorem settled_merge : ∀ {base overlay : Json}, base.Settled → overlay.Settled →
    (merge base overlay).Settled
  | base, .object news, baseSettled, settled => by
      by_cases isObject : ∃ olds, base = .object olds
      · obtain ⟨olds, rfl⟩ := isObject
        rw [merge, settled_object_iff]
        rw [settled_object_iff] at baseSettled settled
        exact ⟨keys_mergeMembers_nodup baseSettled.1,
          settled_mergeMembers baseSettled.2 settled.2⟩
      · rw [merge_of_not_object fun olds same => isObject ⟨olds, same⟩]
        exact settled
  | _, .null, _, settled | _, .bool _, _, settled | _, .int _, _, settled
  | _, .double _, _, settled | _, .text _, _, settled | _, .array _, _, settled => by
      rw [merge_scalar (by simp)]
      exact settled

theorem settled_mergeMembers : ∀ {olds news : List (String × Json)},
    (∀ member ∈ olds, member.2.Settled) → (∀ member ∈ news, member.2.Settled) →
      ∀ member ∈ mergeMembers olds news, member.2.Settled
  | olds, [], oldsSettled, _ => by simpa [mergeMembers] using oldsSettled
  | olds, (name, value) :: rest, oldsSettled, settled => by
      rw [List.forall_mem_cons] at settled
      rw [mergeMembers_cons]
      refine settled_mergeMembers (fun member put => ?_) settled.2
      rcases Keyed.mem_of_mem_put put with rfl | old
      · cases found : Keyed.find? name olds with
        | none => exact settled.1
        | some earlier =>
            exact settled_merge (oldsSettled _ (Keyed.mem_of_find? found)) settled.1
      · exact oldsSettled member old

end

theorem mergeMembers_nil {news : List (String × Json)} (unique : (Keyed.keys news).Nodup) :
    mergeMembers [] news = news := by
  apply Keyed.eq_of_find?
  · exact keys_mergeMembers_nodup List.nodup_nil
  · have names : Keyed.keys ([] : List (String × Json)) = [] := rfl
    simp [keys_mergeMembers [] unique, names]
  · intro key
    rw [find?_mergeMembers key [] unique, Keyed.find?_nil, layered?_none_left]

theorem mergeMembers_again {olds news : List (String × Json)} (oldsSettled : (object olds).Settled)
    (unique : (Keyed.keys news).Nodup)
    (again : ∀ member ∈ news, ∀ base : Json, base.Settled →
      merge (merge base member.2) member.2 = merge base member.2) :
    mergeMembers (mergeMembers olds news) news = mergeMembers olds news := by
  have known : ∀ name ∈ Keyed.keys news, name ∈ Keyed.keys (mergeMembers olds news) := by
    intro name member
    by_cases old : name ∈ Keyed.keys olds <;> simp [keys_mergeMembers olds unique, old, member]
  apply Keyed.eq_of_find?
  · exact keys_mergeMembers_nodup
      (keys_mergeMembers_nodup (settled_object_iff.mp oldsSettled).1)
  · rw [keys_mergeMembers _ unique, List.append_right_eq_self, List.filter_eq_nil_iff]
    intro name member
    simpa using known name member
  · intro key
    rw [find?_mergeMembers key _ unique, find?_mergeMembers key _ unique]
    cases present : Keyed.find? key news with
    | none => rfl
    | some value =>
        have twice := again (key, value) (Keyed.mem_of_find? present)
        cases found : Keyed.find? key olds with
        | none =>
            -- a new value is laid over itself the second time, as it would be over a null
            have replaced : merge .null value = value := merge_of_not_object (by simp) value
            have self : merge value value = value := by simpa [replaced] using twice .null trivial
            simp only [layered?, overlaid, self]
        | some old => simp only [layered?, overlaid, twice old (oldsSettled.find? found)]

mutual

theorem merge_again : ∀ {base overlay : Json}, base.Settled → overlay.Settled →
    merge (merge base overlay) overlay = merge base overlay
  | base, .object news, baseSettled, settled => by
      obtain ⟨unique, newsSettled⟩ := settled_object_iff.mp settled
      have again := merge_members_again newsSettled
      by_cases isObject : ∃ olds, base = .object olds
      · obtain ⟨olds, rfl⟩ := isObject
        simp only [merge, mergeMembers_again baseSettled unique again]
      · have empty : (object []).Settled := settled_object_iff.mpr ⟨List.nodup_nil, by simp⟩
        have self := mergeMembers_again empty unique again
        rw [mergeMembers_nil unique] at self
        rw [merge_of_not_object fun olds same => isObject ⟨olds, same⟩]
        simp only [merge, self]
  | _, .null, _, _ | _, .bool _, _, _ | _, .int _, _, _ | _, .double _, _, _ | _, .text _, _, _
  | _, .array _, _, _ => by simp [merge]

theorem merge_members_again : ∀ {news : List (String × Json)},
    (∀ member ∈ news, member.2.Settled) → ∀ member ∈ news, ∀ base : Json, base.Settled →
      merge (merge base member.2) member.2 = merge base member.2
  | [], _ => by simp
  | (_, value) :: rest, settled => by
      rw [List.forall_mem_cons] at settled ⊢
      exact ⟨fun base baseSettled => merge_again baseSettled settled.1,
        merge_members_again settled.2⟩

end

structure LaidAt (base overlay : Json) (path : List String) : Prop where
  replaced : ∀ new, overlay.valueAt? path = some new →
    (∀ members, new ≠ .object members) ∨ (∀ members, base.valueAt? path ≠ some (.object members)) →
      (merge base overlay).valueAt? path = some new
  merged : ∀ olds news, base.valueAt? path = some (.object olds) →
    overlay.valueAt? path = some (.object news) →
      (merge base overlay).valueAt? path = some (merge (.object olds) (.object news))
  ended : ∀ before key after, path = before ++ key :: after → overlay.EndsAt before →
    (merge base overlay).valueAt? path = none
  kept : ∀ before key after, path = before ++ key :: after → overlay.LeavesOut before key →
    base.OpenTo before → (merge base overlay).valueAt? path = base.valueAt? path
  absent : ∀ before key after, path = before ++ key :: after → overlay.LeavesOut before key →
    ¬base.OpenTo before → (merge base overlay).valueAt? path = none
  complete : (∃ new, overlay.valueAt? path = some new) ∨ ∃ before key after,
    path = before ++ key :: after ∧ (overlay.EndsAt before ∨ overlay.LeavesOut before key)

theorem laidAt {base overlay : Json} (settled : overlay.Settled) (path : List String) :
    LaidAt base overlay path where
  replaced := by
    intro new found replaces
    rw [valueAt?_merge settled found]
    cases present : base.valueAt? path with
    | none => rfl
    | some old =>
        rcases replaces with scalar | scalar
        · rw [overlaid, merge_scalar scalar]
        · have oldScalar : ∀ members, old ≠ .object members := by simpa [present] using scalar
          rw [overlaid, merge_of_not_object oldScalar]
  merged := by
    intro olds news present found
    rw [valueAt?_merge settled found, present, overlaid]
  ended := by
    rintro before key after rfl ends
    exact valueAt?_merge_of_endsAt settled ends key after
  kept := by
    rintro before key after rfl leaves opens
    exact valueAt?_merge_of_leavesOut settled leaves after opens
  absent := by
    rintro before key after rfl leaves closed
    exact valueAt?_merge_of_leavesOut_of_not_open settled leaves after closed
  complete := exists_valueAt?_or overlay path

/-- What a path leads to after an overlay is laid over a base depends on what it leads to in each of
them. Names stay distinct, those of the base in their places and new ones behind them. A second
time the overlay changes nothing, and neither does an empty object that is laid over an object. -/
theorem merge_along_paths {base overlay : Json} (baseSettled : base.Settled)
    (settled : overlay.Settled) :
    (∀ path, LaidAt base overlay path) ∧
    (merge base overlay).Settled ∧
    (∀ path olds news, base.valueAt? path = some (.object olds) →
      overlay.valueAt? path = some (.object news) →
        ∃ members, (merge base overlay).valueAt? path = some (.object members) ∧
          Keyed.keys members = Keyed.keys olds ++
            (Keyed.keys news).filter fun name => name ∉ Keyed.keys olds) ∧
    merge (merge base overlay) overlay = merge base overlay ∧
    ∀ members, base = .object members → merge base (.object []) = base := by
  refine ⟨laidAt settled, settled_merge baseSettled settled, ?_, merge_again baseSettled settled,
    ?_⟩
  · intro path olds news present found
    have unique := (settled_object_iff.mp (settled.valueAt? found)).1
    refine ⟨mergeMembers olds news, ?_, keys_mergeMembers olds unique⟩
    rw [(laidAt settled path).merged olds news present found, merge]
  · rintro members rfl
    rw [merge, mergeMembers]

def shippedOptions : Json :=
  .object [("debug", .bool false),
    ("hosts", .object [("main", .object [("engine", .text "sqlite"), ("port", .int 80)])])]

def siteOptions : Json :=
  .object [("hosts", .object [("spare", .null), ("main", .object [("port", .int 81)])]),
    ("debug", .text "on")]

theorem merge_along_paths_siteOptions :
    shippedOptions.Settled ∧ siteOptions.Settled ∧
      (merge shippedOptions siteOptions).valueAt? ["debug"] = some (.text "on") ∧
      (merge shippedOptions siteOptions).valueAt? ["hosts", "spare", "engine"] = none ∧
      (merge shippedOptions siteOptions).valueAt? ["hosts", "main", "engine"] =
        some (.text "sqlite") ∧
      (∃ members, (merge shippedOptions siteOptions).valueAt? ["hosts"] = some (.object members) ∧
        Keyed.keys members = ["main", "spare"]) ∧
      merge (merge shippedOptions siteOptions) siteOptions = merge shippedOptions siteOptions := by
  have shipped : shippedOptions.Settled :=
    ⟨by decide, trivial, ⟨by decide, ⟨by decide, trivial, trivial, trivial⟩, trivial⟩, trivial⟩
  have site : siteOptions.Settled :=
    ⟨by decide, ⟨by decide, trivial, ⟨by decide, trivial, trivial⟩, trivial⟩, trivial, trivial⟩
  obtain ⟨laid, _, names, again, _⟩ := merge_along_paths shipped site
  refine ⟨shipped, site, ?_, ?_, ?_, names ["hosts"] _ _ rfl rfl, again⟩
  · exact (laid ["debug"]).replaced _ rfl (.inl (by simp))
  · exact (laid ["hosts", "spare", "engine"]).ended ["hosts", "spare"] "engine" [] rfl
      ⟨.null, rfl, by simp⟩
  · exact (laid ["hosts", "main", "engine"]).kept ["hosts", "main"] "engine" [] rfl
      ⟨_, rfl, by decide⟩ (openTo_iff.mpr ⟨_, rfl⟩)

end BoundSql.Json
