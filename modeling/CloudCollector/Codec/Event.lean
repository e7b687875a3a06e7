import CloudCollector.Decode.Value
import CloudCollector.Model.Event

/-!
# Events as documents

An event is written as an object; the component is left out while it is unknown. The target
system, the type and the time are needed to read one.
-/

namespace CloudCollector

variable {ν : Type}

/-- Reads a severity. -/
def Severity.decode [Source ν] : ν → Reading Severity :=
  Decode.choice Severity.names

/-- Writes a severity. -/
def Severity.encode (s : Severity) : Json :=
  .string s.name

/-- The fields of an event. -/
def Event.readers : Fields Json Event :=
  Event.mk <$> .required "target_system" Decode.string
    <*> .defaulted "component" "" Decode.string
    <*> .required "event_type" Decode.string
    <*> .defaulted "summary" "" Decode.string
    <*> .defaulted "severity" .info Severity.decode
    <*> .required "timestamp" Source.real
    <*> .defaulted "traits" .empty (Decode.dict Decode.json)

/-- Reads an event. -/
def Event.decode : Json → Reading Event :=
  Event.readers.read "Event"

/-- Writes an event. -/
def Event.encode (e : Event) : Json :=
  .object ((if e.component = "" then [] else [("component", .string e.component)]) ++
    [("event_type", .string e.eventType), ("severity", e.severity.encode),
      ("summary", .string e.summary), ("target_system", .string e.targetSystem),
      ("timestamp", .ofReal e.timestamp), ("traits", .ofDict id e.traits)])

end CloudCollector
