/-!
# Lifecycles

A change to a modeled entity may create it, delete it, both or neither. Merging two changes
keeps every bit that either of them has.
-/

namespace CloudCollector

/-- What a change does to the existence of an entity. -/
inductive Lifecycle where
  | update
  | create
  | delete
  /-- The entity is created and deleted. -/
  | createDelete
  deriving DecidableEq

namespace Lifecycle

instance : Inhabited Lifecycle := ⟨update⟩

/-- The lifecycle with the given bits. -/
def ofBits (creates deletes : Bool) : Lifecycle :=
  match creates, deletes with
  | false, false => update
  | true, false => create
  | false, true => delete
  | true, true => createDelete

/-- Whether the entity is created. -/
def creates : Lifecycle → Bool
  | create | createDelete => true
  | update | delete => false

/-- Whether the entity is deleted. -/
def deletes : Lifecycle → Bool
  | delete | createDelete => true
  | update | create => false

/-- The lifecycle of two changes together. -/
def merge (a b : Lifecycle) : Lifecycle :=
  ofBits (a.creates || b.creates) (a.deletes || b.deletes)

/-- Every lifecycle with its name. -/
def names : List (String × Lifecycle) :=
  [("update", update), ("create", create), ("delete", delete), ("create_delete", createDelete)]

/-- The name of a lifecycle. -/
def name : Lifecycle → String
  | update => "update"
  | create => "create"
  | delete => "delete"
  | createDelete => "create_delete"

/-- The first bit says whether a lifecycle creates. -/
@[simp]
theorem creates_ofBits (c d : Bool) : (ofBits c d).creates = c := by
  cases c <;> cases d <;> rfl

/-- The second bit says whether a lifecycle deletes. -/
@[simp]
theorem deletes_ofBits (c d : Bool) : (ofBits c d).deletes = d := by
  cases c <;> cases d <;> rfl

/-- A merged lifecycle creates if one of the two does. -/
@[simp]
theorem creates_merge (a b : Lifecycle) : (a.merge b).creates = (a.creates || b.creates) := by
  simp [merge]

/-- A merged lifecycle deletes if one of the two does. -/
@[simp]
theorem deletes_merge (a b : Lifecycle) : (a.merge b).deletes = (a.deletes || b.deletes) := by
  simp [merge]

/-- A lifecycle is its two bits. -/
theorem ext {a b : Lifecycle} (hc : a.creates = b.creates) (hd : a.deletes = b.deletes) :
    a = b := by
  cases a <;> cases b <;> simp_all [creates, deletes]

end Lifecycle

end CloudCollector
