import CloudCollector.Json.Basic
import CloudCollector.Model.Lifecycle

/-!
# Records of change

A record proposes a change to one modeled entity: new values of some of its fields, and whether
the entity is created or deleted. A field whose name begins with `set_` refers to other entities
by their ids.
-/

namespace CloudCollector

/-- Where an entity stands in the model. It is what a record needs beside the id when it is
split. -/
structure Structure where
  /-- The family of classes of the entity. -/
  module : String := ""
  /-- The concrete class, or nothing. -/
  className : String := ""
  /-- The path of the containing entity. -/
  container : String := ""
  /-- The relationship of the container that the entity lives in. -/
  relationship : String := ""
  deriving DecidableEq, Inhabited

/-- A proposed change to one entity. -/
structure Record where
  /-- The id of the entity. -/
  targetId : String
  /-- Whether the entity is created or deleted. -/
  lifecycle : Lifecycle := .update
  /-- Where the entity stands. -/
  place : Structure := {}
  /-- New values of fields. -/
  fields : Dict Json := .empty
  deriving DecidableEq

/-- Whether a field refers to other entities: its name begins with `set_` and goes on. -/
def isReference (name : String) : Bool :=
  match name.toList with
  | 's' :: 'e' :: 't' :: '_' :: _ :: _ => true
  | _ => false

/-- The ids that the value of a reference names: a string names one, a list the strings in it. -/
def namedIds : Json → List String
  | .string id => [id]
  | .array items => items.filterMap fun
    | .string id => some id
    | _ => none
  | _ => []

namespace Record

/-- Whether the record creates its entity. -/
def creates (r : Record) : Bool :=
  r.lifecycle.creates

/-- Whether the record deletes its entity. -/
def deletes (r : Record) : Bool :=
  r.lifecycle.deletes

/-- Gives a field a value. -/
def setField (r : Record) (name : String) (value : Json) : Record :=
  { r with fields := r.fields.insert name value }

/-- Puts `later` over the record: its fields replace those of the same name and its lifecycle is
added, while the id and the place of the entity stay. -/
def merge (r later : Record) : Record :=
  { r with
    lifecycle := r.lifecycle.merge later.lifecycle
    fields := r.fields.overlay later.fields }

/-- A record of the same entity that changes nothing. -/
def splitOff (r : Record) : Record :=
  { targetId := r.targetId, place := r.place }

/-- The references of the record, each with the ids that it names. -/
def references (r : Record) : List (String × List String) :=
  (r.fields.entries.filter fun field => isReference field.1).map fun field =>
    (field.1, namedIds field.2)

/-- The ids that the references name. -/
def referencedIds (r : Record) : List String :=
  r.references.flatMap (·.2)

/-- Whether a field is a reference that names one of `ids`. -/
def linksTo (ids : List String) (name : String) (value : Json) : Bool :=
  isReference name && (namedIds value).any fun id => ids.contains id

/-- The fields that refer to none of `ids`. -/
def withoutLinks (r : Record) (ids : List String) : Record :=
  { r with fields := r.fields.filter fun name value => !linksTo ids name value }

/-- A record of the same entity with the references to one of `ids`, if there are any. -/
def links? (r : Record) (ids : List String) : Option Record :=
  let fields := r.fields.filter (linksTo ids)
  if fields.isEmpty then none else some { r.splitOff with fields }

/-- A merged record is of the entity of the earlier one. -/
@[simp]
theorem targetId_merge (r later : Record) : (r.merge later).targetId = r.targetId := rfl

/-- A merged record has the place of the earlier one. -/
@[simp]
theorem place_merge (r later : Record) : (r.merge later).place = r.place := rfl

end Record

end CloudCollector
