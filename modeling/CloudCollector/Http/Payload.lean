import CloudCollector.Decode.Value
import CloudCollector.Pipeline.Ingest
import CloudCollector.Time.Timestamp
import CloudCollector.Time.UnixSeconds

/-!
# Telemetry payloads

Samples and events arrive as lists of JSON objects. The first entry that does not decode refuses
the whole payload. Times are texts or numbers of seconds; the severity of an event follows from
its priority.
-/

namespace CloudCollector.Http

/-- The instant that a value tells. -/
def instant? : Json → Option Instant
  | .string text => Instant.parse? text
  | .number n => Instant.ofUnixSeconds? n.toBinary64
  | _ => none

/-- A sample as it arrives. -/
structure SampleEntry where
  resourceId : String
  meter : String
  volume : Binary64
  time : Json

/-- The fields of a sample. -/
def SampleEntry.readers : Fields Json SampleEntry :=
  SampleEntry.mk <$> .required "resource_id" Decode.string
    <*> .required "name" Decode.string
    <*> .required "volume" Source.real
    <*> .required "timestamp" Decode.json

/-- Reads a sample, or tells why it does not decode. -/
def readSample (v : Json) : Except String Sample := do
  let entry ← (SampleEntry.readers.read "SampleJson" v).mapError DecodeError.message
  match instant? entry.time with
  | some time =>
    return { resourceId := entry.resourceId, meter := entry.meter, volume := entry.volume, time }
  | none => throw ("invalid timestamp " ++ entry.time.print)

/-- Reads a trait: an object with a name and a value, or a list of a name, a type and a value. -/
def readTrait : Json → Reading (String × Json)
  | .array [.string name, _, value] => .ok (name, value)
  | v =>
    match v.member? "name", v.member? "value" with
    | some (.string name), some value => .ok (name, value)
    | _, _ => .error (.noShape "TraitJson")

/-- An event as it arrives. -/
structure EventEntry where
  eventType : String
  generated : Option Json
  messageId : Option String
  traits : List (String × Json)

/-- The fields of an event. -/
def EventEntry.readers : Fields Json EventEntry :=
  EventEntry.mk <$> .required "event_type" Decode.string
    <*> .defaulted "generated" none (Decode.option Decode.json)
    <*> .defaulted "message_id" none (Decode.option Decode.string)
    <*> .defaulted "traits" [] (Decode.list readTrait)

/-- The severity that a priority stands for. -/
def severityOf : Option String → Severity
  | some "WARN" => .warning
  | some "ERROR" => .error
  | _ => .info

/-- The traits of an event; its message id is one of them. -/
def EventEntry.allTraits (entry : EventEntry) : Dict Json :=
  let traits := Dict.ofList entry.traits
  match entry.messageId with
  | some id => traits.insert "message_id" (.string id)
  | none => traits

/-- Reads an event of a target, or tells why it does not decode. An event that tells no time
happened now. -/
def readEvent (target : String) (now : Instant) (v : Json) : Except String Event := do
  let entry ← (EventEntry.readers.read "EventJson" v).mapError DecodeError.message
  let time ← match entry.generated with
    | none => pure now
    | some v =>
      match instant? v with
      | some time => pure time
      | none => throw ("invalid generated time " ++ v.print)
  let event : Event :=
    { targetSystem := target
      eventType := entry.eventType
      timestamp := time.unixSeconds
      traits := entry.allTraits }
  return { event with severity := severityOf (event.traitText "priority") }

variable {α : Type}

/-- Reads the entries of a payload from position `index` on. -/
def readEntries (read : Json → Except String α) (index : Nat) :
    List Json → Except IngestError (List α)
  | [] => .ok []
  | v :: rest => do
    let entry ← (read v).mapError (.malformed index)
    return entry :: (← readEntries read (index + 1) rest)

/-- Reads a payload, which has to be a list. -/
def readPayload (read : Json → Except String α) : Json → Except IngestError (List α)
  | .array items => readEntries read 0 items
  | _ => .error (.malformed 0 "payload is not a list")

end CloudCollector.Http
