import CloudCollector.Json.Basic
import CloudCollector.Pipeline.Basic
import CloudCollector.Time.UnixSeconds

/-!
# Snapshots

A snapshot shows how things stand: how much waits, for which targets, and how the tasks fare. It
lists every target that was configured or has a state.
-/

namespace CloudCollector

/-- How a queue stands. -/
structure QueueSnapshot where
  held : Nat := 0
  /-- The refused ids in increasing order. -/
  blacklisted : List String := []
  lastRelease : Option Instant := none
  releasedTotal : Nat := 0
  deriving DecidableEq

/-- How a queue stands. -/
def Queue.snapshot (q : Queue) : QueueSnapshot :=
  { held := q.size
    blacklisted := q.blacklist.keys
    lastRelease := q.lastRelease
    releasedTotal := q.releasedTotal }

/-- Writes how a queue stands. -/
def QueueSnapshot.encode (q : QueueSnapshot) : Json :=
  .object [("blacklisted", .ofList .string q.blacklisted), ("held", .ofNat q.held),
    ("last_release_unix", .ofOption (fun t => .ofReal t.unixSeconds) q.lastRelease),
    ("released_total", .ofNat q.releasedTotal)]

/-- How many ids were sighted, and for how many of them a record was emitted. -/
structure SightingCounts where
  potential : Nat := 0
  modeled : Nat := 0
  deriving DecidableEq

/-- Counts the sightings. -/
def Sightings.counts (s : Sightings) : SightingCounts :=
  { potential := s.potential.size, modeled := s.modeled.size }

/-- Writes the counts. -/
def SightingCounts.encode (c : SightingCounts) : Json :=
  .object [("modeled", .ofNat c.modeled), ("potential", .ofNat c.potential)]

/-- How a target stands. -/
structure TargetSnapshot where
  configured : Bool
  /-- The number of its known resources. -/
  resources : Nat
  queue : QueueSnapshot := {}
  sightings : SightingCounts := {}
  deriving DecidableEq

/-- Writes how a target stands. -/
def TargetSnapshot.encode (t : TargetSnapshot) : Json :=
  .object [("configured", .bool t.configured), ("discovery", t.sightings.encode),
    ("queue", t.queue.encode), ("resources", .ofNat t.resources)]

/-- Writes how a task fares. -/
def TaskStatus.encode (task : Task) (s : TaskStatus) : Json :=
  .object ([("errors", .ofNat s.errors)] ++
    (match s.lastError with
      | some cause => [("last_error", .string cause)]
      | none => []) ++
    [("name", .string task.name), ("runs", .ofNat s.runs),
      ("state", .string (if s.active then "active" else "idle"))])

/-- How everything stands. -/
structure Snapshot where
  metricQueue : Nat
  eventQueue : Nat
  targets : Dict TargetSnapshot
  tasks : PerTask TaskStatus
  deriving DecidableEq

namespace Pipeline

/-- How the targets with a state stand. -/
def stateSnapshots (p : Pipeline) : Dict TargetSnapshot :=
  p.targets.map fun target state =>
    { configured := p.registry.hasTarget target
      resources := p.registry.resourceCount target
      queue := state.queue.snapshot
      sightings := state.sightings.counts }

/-- How everything stands. A configured target without a state is listed as empty. -/
def snapshot (p : Pipeline) : Snapshot :=
  let stateless : Dict TargetSnapshot :=
    p.registry.targets.map fun _ _ => { configured := true, resources := 0 }
  { metricQueue := p.metrics.length
    eventQueue := p.events.length
    targets := stateless.overlay p.stateSnapshots
    tasks := p.tasks }

end Pipeline

/-- Writes how everything stands. -/
def Snapshot.encode (s : Snapshot) : Json :=
  .object [("event_queue", .ofNat s.eventQueue), ("metric_queue", .ofNat s.metricQueue),
    ("targets", .ofDict TargetSnapshot.encode s.targets),
    ("tasks", .ofList (fun task => (s.tasks.get task).encode task) Task.all)]

end CloudCollector
