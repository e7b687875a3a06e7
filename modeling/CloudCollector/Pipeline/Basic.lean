import CloudCollector.Discovery.Sightings
import CloudCollector.Health.Basic
import CloudCollector.Model.Event
import CloudCollector.Queue.Basic
import CloudCollector.Task

/-!
# The pipeline

The pipeline holds everything between ingestion and delivery: what is known about the target
systems, the metric writes and events that wait, a queue of records and the sightings of each
target, and the health of it all. Its operations read no clock; the time is given to them. An
operation that can be refused returns the pipeline beside its result, because a refusal may be
counted.
-/

namespace CloudCollector

/-- What does not change while a pipeline runs. -/
structure Settings where
  /-- The tuning of the queues of targets that nobody configured. -/
  defaultTuning : Tuning := {}
  /-- The rules of discovery, the most important first. -/
  rules : List Rule := [.networkInterfaces]
  /-- For how long a sighting may be matched. -/
  horizon : Span := Sightings.standardHorizon
  deriving DecidableEq, Inhabited

/-- The state of one target system. -/
structure TargetState where
  queue : Queue
  sightings : Sightings := {}
  deriving DecidableEq

/-- The state of a target with an empty queue and no sightings. -/
def TargetState.fresh (tuning : Tuning) : TargetState :=
  { queue := { tuning } }

/-- Everything between ingestion and delivery. -/
structure Pipeline where
  settings : Settings := {}
  registry : Registry := {}
  /-- The metric writes that wait, the oldest first. -/
  metrics : List MetricWrite := []
  /-- The events that wait, the oldest first. -/
  events : List Event := []
  targets : Dict TargetState := .empty
  health : Health := {}
  tasks : PerTask TaskStatus := .const {}
  deriving DecidableEq

/-- Why an operation is refused. -/
inductive PipelineError where
  /-- A record names no entity. -/
  | emptyTargetId
  /-- The target system has no name. -/
  | emptyTargetSystem
  /-- The tuning of a push does not hold. -/
  | invalidTuning (cause : TuningError)
  deriving DecidableEq

/-- The cause in words. -/
def PipelineError.message : PipelineError → String
  | emptyTargetId => "delta record has an empty target id"
  | emptyTargetSystem => "target system id is empty"
  | invalidTuning cause => "invalid queue tuning: " ++ cause.message

namespace Pipeline

/-- Sets the number of targets with a state. -/
def countTargets (p : Pipeline) : Pipeline :=
  { p with health.targetSystems := p.targets.size }

/-- The state of a target, or a fresh one with the default tuning. -/
def stateOf (p : Pipeline) (target : String) : TargetState :=
  p.targets.getD target (.fresh p.settings.defaultTuning)

/-! ## Configuration -/

/-- The first step of a push: replaces what is known about the target. -/
def register (p : Pipeline) (target : String) (config : TargetConfig) : Pipeline :=
  { p with registry := p.registry.setConfig target config }

/-- The second step of a push: gives the queue of the target its tuning. -/
def retune (p : Pipeline) (target : String) (tuning : Tuning) : Pipeline :=
  let state := match p.targets.get? target with
    | some state => { state with queue := state.queue.setTuning tuning }
    | none => .fresh tuning
  { p with targets := p.targets.insert target state }

/-- Why a push is refused, if it is. -/
def checkConfig (target : String) (config : TargetConfig) : Except PipelineError Unit :=
  if target = "" then .error .emptyTargetSystem
  else config.queue.validate.mapError .invalidTuning

/-- Takes a push of the configuration of a target. -/
def applyConfig (p : Pipeline) (target : String) (config : TargetConfig) :
    Pipeline × Except PipelineError Unit :=
  match checkConfig target config with
  | .error cause => (p, .error cause)
  | .ok () => (((p.register target config).retune target config.queue).countTargets, .ok ())

/-- Forgets a target, and tells whether anything was known about it. -/
def removeTarget (p : Pipeline) (target : String) : Pipeline × Bool :=
  let removed : Pipeline :=
    { p with
      registry := p.registry.remove target
      targets := p.targets.erase target
      health := p.health.forgetTarget target }
  (removed.countTargets, p.registry.hasTarget target || p.targets.contains target)

/-- Whether a target was configured. -/
def hasTarget (p : Pipeline) (target : String) : Bool :=
  p.registry.hasTarget target

/-! ## Appending -/

/-- Puts a metric write last among those that wait. -/
def appendMetric (p : Pipeline) (w : MetricWrite) : Pipeline :=
  let metrics := p.metrics ++ [w]
  { p with metrics, health := p.health.setMetricDepth metrics.length }

/-- Puts an event last among those that wait. -/
def appendEvent (p : Pipeline) (e : Event) : Pipeline :=
  let events := p.events ++ [e]
  { p with events, health := p.health.setEventDepth events.length }

/-- Why a record is refused, if it is. -/
def checkRecord (target : String) (r : Record) : Except PipelineError Unit :=
  if target = "" then .error .emptyTargetSystem
  else if r.targetId = "" then .error .emptyTargetId
  else .ok ()

/-- Adds a record to the queue of a target. -/
def enqueue (p : Pipeline) (target : String) (now : Instant) (r : Record) : Pipeline :=
  let state := p.stateOf target
  let queue := state.queue.append now r
  let added : Pipeline :=
    { p with
      targets := p.targets.insert target { state with queue }
      health := { p.health with
        datamapHeld := p.health.datamapHeld.insert target queue.size
        deltasAppended := p.health.deltasAppended + 1 } }
  added.countTargets

/-- Adds a record, if there is one, to the queue of a target. A refused record is counted. -/
def appendRecord (p : Pipeline) (target : String) (now : Instant) :
    Option Record → Pipeline × Except PipelineError Unit
  | none => (p, .ok ())
  | some r =>
    match checkRecord target r with
    | .error cause =>
      ({ p with health.deltasRejected := p.health.deltasRejected + 1 }, .error cause)
    | .ok () => (p.enqueue target now r, .ok ())

/-- Notes that telemetry of a target mentioned a resource. -/
def note (p : Pipeline) (target id : String) (now : Instant) :
    Pipeline × Except PipelineError Unit :=
  if target = "" then (p, .error .emptyTargetSystem)
  else
    let state := p.stateOf target
    let sightings := state.sightings.note id now
    ({ p with targets := p.targets.insert target { state with sightings } }, .ok ())

/-! ## Looking -/

/-- The number of records that wait for a target. -/
def held (p : Pipeline) (target : String) : Nat :=
  ((p.targets.get? target).map fun state => state.queue.size).getD 0

/-- Whether records of an entity of a target are refused. -/
def isBlacklisted (p : Pipeline) (target id : String) : Bool :=
  (p.targets.get? target).any fun state => state.queue.isBlacklisted id

/-- When records of a target were last released. -/
def lastRelease (p : Pipeline) (target : String) : Option Instant :=
  (p.targets.get? target).bind fun state => state.queue.lastRelease

/-! ## Taking -/

/-- Takes every metric write that waits. -/
def takeMetrics (p : Pipeline) : Pipeline × List MetricWrite :=
  ({ p with metrics := [], health := p.health.setMetricDepth 0 }, p.metrics)

/-- Takes every event that waits. -/
def takeEvents (p : Pipeline) : Pipeline × List Event :=
  ({ p with events := [], health := p.health.setEventDepth 0 }, p.events)

end Pipeline

end CloudCollector
