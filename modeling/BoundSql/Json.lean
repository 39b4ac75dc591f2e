import BoundSql.Binary64
import BoundSql.Keyed

/-! JSON values with object members in document order. A document is first read as it stands and
then settled: a repeated member keeps its first position and takes its last value. -/

namespace BoundSql

inductive Json
  | null
  | bool (value : Bool)
  | int (value : Int)
  | double (value : Binary64)
  | text (value : String)
  | array (items : List Json)
  | object (members : List (String × Json))

namespace Json

mutual

def same : Json → Json → Bool
  | .null, .null => true
  | .bool left, .bool right => left == right
  | .int left, .int right => left == right
  | .double left, .double right => left == right
  | .text left, .text right => left == right
  | .array left, .array right => sameItems left right
  | .object left, .object right => sameMembers left right
  | _, _ => false

def sameItems : List Json → List Json → Bool
  | [], [] => true
  | left :: rest, right :: others => left.same right && sameItems rest others
  | _, _ => false

def sameMembers : List (String × Json) → List (String × Json) → Bool
  | [], [] => true
  | (name, left) :: rest, (other, right) :: others =>
      name == other && left.same right && sameMembers rest others
  | _, _ => false

end

mutual

theorem same_iff : ∀ left right : Json, left.same right = true ↔ left = right
  | .array items, right => by cases right <;> simp [same, sameItems_iff items]
  | .object members, right => by cases right <;> simp [same, sameMembers_iff members]
  | .null, right | .bool _, right | .int _, right | .double _, right | .text _, right => by
      cases right <;> simp [same]

theorem sameItems_iff : ∀ left right : List Json, sameItems left right = true ↔ left = right
  | [], right => by cases right <;> simp [sameItems]
  | first :: rest, right => by
      cases right <;> simp [sameItems, same_iff first, sameItems_iff rest]

theorem sameMembers_iff : ∀ left right : List (String × Json),
    sameMembers left right = true ↔ left = right
  | [], right => by cases right <;> simp [sameMembers]
  | (name, first) :: rest, right => by
      cases right <;> simp [sameMembers, same_iff first, sameMembers_iff rest, Prod.ext_iff]

end

instance : DecidableEq Json := fun left right =>
  decidable_of_iff (left.same right = true) (same_iff left right)

mutual

def settle : Json → Json
  | .null => .null
  | .bool value => .bool value
  | .int value => .int value
  | .double value => .double value
  | .text value => .text value
  | .array items => .array (settleItems items)
  | .object members => .object (Keyed.ofList (settleMembers members))

def settleItems : List Json → List Json
  | [] => []
  | item :: rest => item.settle :: settleItems rest

def settleMembers : List (String × Json) → List (String × Json)
  | [] => []
  | (name, value) :: rest => (name, value.settle) :: settleMembers rest

end

mutual

/-- Every object of the value names each member once. -/
def Settled : Json → Prop
  | .array items => SettledItems items
  | .object members => (Keyed.keys members).Nodup ∧ SettledMembers members
  | _ => True

def SettledItems : List Json → Prop
  | [] => True
  | item :: rest => item.Settled ∧ SettledItems rest

def SettledMembers : List (String × Json) → Prop
  | [] => True
  | (_, value) :: rest => value.Settled ∧ SettledMembers rest

end

theorem settledItems_iff {items : List Json} :
    SettledItems items ↔ ∀ item ∈ items, item.Settled := by
  induction items with
  | nil => simp [SettledItems]
  | cons item rest ih => simp [SettledItems, ih]

theorem settledMembers_iff {members : List (String × Json)} :
    SettledMembers members ↔ ∀ member ∈ members, member.2.Settled := by
  induction members with
  | nil => simp [SettledMembers]
  | cons member rest ih => simp [SettledMembers, ih]

theorem settled_array_iff {items : List Json} :
    (array items).Settled ↔ ∀ item ∈ items, item.Settled := by
  rw [Settled, settledItems_iff]

theorem settled_object_iff {members : List (String × Json)} :
    (object members).Settled ↔
      (Keyed.keys members).Nodup ∧ ∀ member ∈ members, member.2.Settled := by
  rw [Settled, settledMembers_iff]

theorem Settled.find? {members : List (String × Json)} {name : String} {json : Json}
    (settled : (object members).Settled) (found : Keyed.find? name members = some json) :
    json.Settled :=
  (settled_object_iff.mp settled).2 (name, json) (Keyed.mem_of_find? found)

mutual

/-- Lays `overlay` over `base`: objects merge member by member, anything else replaces. -/
def merge (base : Json) : Json → Json
  | .object overlay =>
      match base with
      | .object members => .object (mergeMembers members overlay)
      | _ => .object overlay
  | overlay => overlay

def mergeMembers (base : List (String × Json)) : List (String × Json) → List (String × Json)
  | [] => base
  | (name, value) :: rest =>
      match Keyed.find? name base with
      | some old => mergeMembers (Keyed.put name (merge old value) base) rest
      | none => mergeMembers (Keyed.put name value base) rest

end

end Json

end BoundSql
