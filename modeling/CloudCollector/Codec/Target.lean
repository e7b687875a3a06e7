import CloudCollector.Decode.Value
import CloudCollector.Discovery.Rule
import CloudCollector.Registry.Config

/-!
# Configuration as documents

Configuration pushes arrive as JSON values and as JSON text, and stand in the configuration file
as YAML, so their readers work on every source. Windows are written as spans in words.
-/

namespace CloudCollector

variable {ν : Type}

/-- Reads a span in words. -/
def Span.decode [Source ν] (v : ν) : Reading Span := do
  let text ← Source.text "a duration" v
  match Span.parse? text with
  | some d => return d
  | none => throw (.invalidValue (.string text) "a duration")

/-- Writes a span in words. -/
def Span.encode (d : Span) : Json :=
  .string d.render

/-- The fields of a tuning. -/
def Tuning.readers [Source ν] : Fields ν Tuning :=
  Tuning.mk <$> .defaulted "shortlived" Window.shortlived.standard Span.decode
    <*> .defaulted "delete_blacklist" Window.deleteBlacklist.standard Span.decode
    <*> .defaulted "update_consolidate" Window.updateConsolidate.standard Span.decode

/-- Reads a tuning. -/
def Tuning.decode [Source ν] : ν → Reading Tuning :=
  Tuning.readers.read "QueueTuning"

/-- Writes a tuning. -/
def Tuning.encode (t : Tuning) : Json :=
  .object [("delete_blacklist", t.deleteBlacklist.encode), ("shortlived", t.shortlived.encode),
    ("update_consolidate", t.updateConsolidate.encode)]

/-- Reads the kind of a datapoint. -/
def DatapointKind.decode [Source ν] : ν → Reading DatapointKind :=
  Decode.choice DatapointKind.names

/-- Writes the kind of a datapoint. -/
def DatapointKind.encode (k : DatapointKind) : Json :=
  .string k.name

/-- The fields of a datapoint. -/
def Datapoint.readers [Source ν] : Fields ν Datapoint :=
  Datapoint.mk <$> .required "id" Decode.string
    <*> .required "name" Decode.string
    <*> .defaulted "component" "" Decode.string
    <*> .required "path" Decode.string
    <*> .defaulted "kind" .gauge DatapointKind.decode
    <*> .defaulted "min" none (Decode.option Source.real)
    <*> .defaulted "max" none (Decode.option Source.real)
    <*> .defaulted "metadata" .empty (Decode.dict Decode.string)

/-- Reads a datapoint. -/
def Datapoint.decode [Source ν] : ν → Reading Datapoint :=
  Datapoint.readers.read "Datapoint"

/-- A member that is left out when there is no value. -/
def optionalMember (name : String) : Option Binary64 → List (String × Json)
  | none => []
  | some x => [(name, .ofReal x)]

/-- A member with tags, which is left out when there are none. -/
def tagsMember (tags : Dict String) : List (String × Json) :=
  if tags.isEmpty then [] else [("metadata", .ofDict .string tags)]

/-- Writes a datapoint; bounds and tags that it does not have are left out. -/
def Datapoint.encode (d : Datapoint) : Json :=
  .object ([("component", .string d.component), ("id", .string d.id), ("kind", d.kind.encode)] ++
    optionalMember "max" d.max ++ tagsMember d.metadata ++ optionalMember "min" d.min ++
    [("name", .string d.name), ("path", .string d.path)])

/-- The fields of a datasource. -/
def Datasource.readers [Source ν] : Fields ν Datasource :=
  Datasource.mk <$> .required "resource_id" Decode.string
    <*> .required "component" Decode.string
    <*> .defaulted "component_kind" "" Decode.string
    <*> .defaulted "meters" .empty (Decode.dict (Decode.list Datapoint.decode))

/-- Reads a datasource. -/
def Datasource.decode [Source ν] : ν → Reading Datasource :=
  Datasource.readers.read "DatasourceConfig"

/-- Writes a datasource. -/
def Datasource.encode (d : Datasource) : Json :=
  .object [("component", .string d.component), ("component_kind", .string d.componentKind),
    ("meters", .ofDict (.ofList Datapoint.encode) d.meters), ("resource_id", .string d.resourceId)]

/-- The fields of the configuration of a target system. -/
def TargetConfig.readers [Source ν] : Fields ν TargetConfig :=
  TargetConfig.mk <$> .defaulted "datasources" [] (Decode.list Datasource.decode)
    <*> .defaulted "event_types" [] (Decode.list Decode.string)
    <*> .defaulted "queue" {} Tuning.decode

/-- Reads the configuration of a target system. -/
def TargetConfig.decode [Source ν] : ν → Reading TargetConfig :=
  TargetConfig.readers.read "TargetConfig"

/-- Writes the configuration of a target system. -/
def TargetConfig.encode (c : TargetConfig) : Json :=
  .object [("datasources", .ofList Datasource.encode c.datasources),
    ("event_types", .ofList .string c.eventTypes), ("queue", c.queue.encode)]

/-- The fields of a rule of discovery. -/
def Rule.readers [Source ν] : Fields ν Rule :=
  Rule.mk <$> .required "meter_prefix" Decode.string
    <*> .required "parent_kind" Decode.string
    <*> .required "child_module" Decode.string
    <*> .required "child_relationship" Decode.string
    <*> .required "child_id_prefix" Decode.string

/-- Reads a rule of discovery. -/
def Rule.decode [Source ν] : ν → Reading Rule :=
  Rule.readers.read "DiscoveryRule"

/-- Writes a rule of discovery. -/
def Rule.encode (r : Rule) : Json :=
  .object [("child_id_prefix", .string r.childIdPrefix), ("child_module", .string r.childModule),
    ("child_relationship", .string r.childRelationship), ("meter_prefix", .string r.meterPrefix),
    ("parent_kind", .string r.parentKind)]

end CloudCollector
