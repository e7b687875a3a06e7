import CloudCollector.Decode.Value
import CloudCollector.Model.Record

/-!
# Records as documents

A record is written as an object with its id, its lifecycle, its place and its fields. Only the
id is needed to read one, and the family of classes where a place is given.
-/

namespace CloudCollector

variable {ν : Type}

/-- Reads a lifecycle. -/
def Lifecycle.decode [Source ν] : ν → Reading Lifecycle :=
  Decode.choice Lifecycle.names

/-- Writes a lifecycle. -/
def Lifecycle.encode (l : Lifecycle) : Json :=
  .string l.name

/-- The fields of a place. -/
def Structure.readers [Source ν] : Fields ν Structure :=
  Structure.mk <$> .required "module" Decode.string
    <*> .defaulted "class_name" "" Decode.string
    <*> .defaulted "container" "" Decode.string
    <*> .defaulted "relationship" "" Decode.string

/-- Reads a place. -/
def Structure.decode [Source ν] : ν → Reading Structure :=
  Structure.readers.read "Structure"

/-- Writes a place; a class that is not known is left out. -/
def Structure.encode (p : Structure) : Json :=
  .object ((if p.className = "" then [] else [("class_name", .string p.className)]) ++
    [("container", .string p.container), ("module", .string p.module),
      ("relationship", .string p.relationship)])

/-- The fields of a record. -/
def Record.readers : Fields Json Record :=
  Record.mk <$> .required "target_id" Decode.string
    <*> .defaulted "lifecycle" .update Lifecycle.decode
    <*> .defaulted "structure" {} Structure.decode
    <*> .defaulted "fields" .empty (Decode.dict Decode.json)

/-- Reads a record. -/
def Record.decode : Json → Reading Record :=
  Record.readers.read "DeltaRecord"

/-- Writes a record. -/
def Record.encode (r : Record) : Json :=
  .object [("fields", .ofDict id r.fields), ("lifecycle", r.lifecycle.encode),
    ("structure", r.place.encode), ("target_id", .string r.targetId)]

end CloudCollector
