import CloudCollector.InstanceEvents
import CloudCollector.Pipeline.Basic

/-!
# Ingestion

Samples become metric writes by what the target's configuration says about their resource and
their meter. A sample that feeds nothing may reveal a child that nobody models. Every event is
passed on; one of a configured type may also change the model.
-/

namespace CloudCollector

/-- Why telemetry is refused. -/
inductive IngestError where
  /-- Nobody configured the target. -/
  | unknownTarget (target : String)
  /-- An entry of a payload does not decode. -/
  | malformed (index : Nat) (reason : String)
  /-- The pipeline refuses what the telemetry leads to. -/
  | refused (cause : PipelineError)
  deriving DecidableEq

/-- The cause in words. -/
def IngestError.message : IngestError → String
  | unknownTarget target => "unknown target system " ++ target
  | malformed index reason => "sample " ++ toString index ++ ": " ++ reason
  | refused cause => cause.message

/-- What became of a list of samples. -/
structure IngestSummary where
  /-- Samples that were taken. -/
  accepted : Nat := 0
  /-- Metric writes that they led to. -/
  writes : Nat := 0
  /-- Samples that feed no datapoint. -/
  unmonitored : Nat := 0
  /-- Unmonitored samples that may reveal a child. -/
  potential : Nat := 0
  deriving DecidableEq

namespace Pipeline

/-- The metric writes that a sample leads to. A time in the future counts as now. -/
def writesOf (p : Pipeline) (target : String) (now : Instant) (s : Sample) : List MetricWrite :=
  (p.registry.datapointsFor target s.resourceId s.meter).map fun datapoint =>
    { datapoint, value := s.volume, time := s.time.earliest now }

/-- Whether a sample feeds no datapoint. -/
def isUnmonitored (p : Pipeline) (target : String) (s : Sample) : Bool :=
  (p.registry.datapointsFor target s.resourceId s.meter).isEmpty

/-- Whether a sample may reveal a child: nobody models its resource, and a rule knows its meter. -/
def mayReveal (p : Pipeline) (target : String) (s : Sample) : Bool :=
  !p.registry.hasResource target s.resourceId &&
    p.settings.rules.any fun rule => rule.matchesMeter s.meter

/-- Notes several resources, up to the first that is refused. -/
def noteAll (target : String) (now : Instant) :
    List String → Pipeline → Pipeline × Except PipelineError Unit
  | [], p => (p, .ok ())
  | id :: ids, p =>
    match p.note target id now with
    | (p, .ok ()) => noteAll target now ids p
    | (p, .error cause) => (p, .error cause)

/-- Takes samples of a target. -/
def ingestSamples (p : Pipeline) (target : String) (now : Instant) (samples : List Sample) :
    Pipeline × Except IngestError IngestSummary :=
  if !p.hasTarget target then (p, .error (.unknownTarget target))
  else
    let writes := samples.flatMap (p.writesOf target now)
    let unmonitored := samples.filter (p.isUnmonitored target)
    let potential := unmonitored.filter (p.mayReveal target)
    match noteAll target now (potential.map (·.resourceId)) (writes.foldl appendMetric p) with
    | (p, .error cause) => (p, .error (.refused cause))
    | (p, .ok ()) =>
      ({ p with health := { p.health with
          samplesReceived := p.health.samplesReceived + samples.length
          samplesUnmonitored := p.health.samplesUnmonitored + unmonitored.length } },
        .ok
          { accepted := samples.length
            writes := writes.length
            unmonitored := unmonitored.length
            potential := potential.length })

/-- Adds the record that an event leads to, if there is one. A record that is refused is
dropped. -/
def appendMapped (p : Pipeline) (target : String) (now : Instant) :
    Option Record → Pipeline × Nat
  | none => (p, 0)
  | some r =>
    let mapped : Pipeline := { p with health.eventsMapped := p.health.eventsMapped + 1 }
    match mapped.appendRecord target now (some r) with
    | (p, .ok ()) => (p, 1)
    | (p, .error _) => (p, 0)

/-- What an event says once it is taken: its target, and if its type is configured for the target
its component, its summary and the record that it leads to. -/
def interpret (p : Pipeline) (target : String) (e : Event) : Event × Option Record :=
  let e := { e with targetSystem := target }
  let (e, record) :=
    if p.registry.handlesEventType target e.eventType then InstanceEvents.apply e else (e, none)
  (e.withSummary ("OpenStack: " ++ e.eventType), record)

/-- Takes an event of a target, and tells how many records it led to. -/
def ingestEvent (p : Pipeline) (target : String) (now : Instant) (e : Event) :
    Pipeline × Except IngestError Nat :=
  if !p.hasTarget target then (p, .error (.unknownTarget target))
  else
    let (e, record) := p.interpret target e
    let counted : Pipeline := { p with health.eventsReceived := p.health.eventsReceived + 1 }
    let (p, appended) := counted.appendMapped target now record
    (p.appendEvent e, .ok appended)

end Pipeline

end CloudCollector
