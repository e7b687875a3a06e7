import CloudCollector.Pipeline.Basic
import CloudCollector.Queue.Release

/-!
# Draining and discovery

A drain releases what is due in every target, and afterwards forgets each target that nobody
configured and that holds nothing. It works in steps, each on the pipeline as it then is: it
reads which targets are configured and which have a state, drains one target after the other, and
forgets one after the other. A discovery queues a record for every child that it recognizes.
-/

namespace CloudCollector

/-- The records that are released for one target, in the order in which they are to be applied. -/
structure Batch where
  target : String
  records : List Record
  deriving DecidableEq

/-- Counts what a drain of the queue of a target released and dropped. -/
def Health.countDrain (h : Health) (target : String) (queue : Queue) (release : Release)
    (stats : DrainStats) : Health :=
  { h with
    deltasReleased := ((h.deltasReleased.count "create" release.creates.length).count
      "link" release.links.length).count "update" release.updates.length
    deltasSuppressed := (h.deltasSuppressed.count "shortlived" stats.shortlived).count
      "blacklisted" stats.suppressed
    datamapHeld := h.datamapHeld.insert target queue.size
    blacklisted := h.blacklisted.insert target queue.blacklist.size }

/-- What a drain has found so far. -/
structure DrainProgress where
  batches : List Batch := []
  /-- The targets that hold nothing and that nobody had configured when the drain began. -/
  idle : List String := []

namespace Pipeline

/-- Drains one target, if it still has a state. -/
def drainTarget (configured : List String) (now : Instant) (p : Pipeline)
    (progress : DrainProgress) (target : String) : Pipeline × DrainProgress :=
  match p.targets.get? target with
  | none => (p, progress)
  | some state =>
    let (queue, release, stats) := state.queue.drain now
    ({ p with
        targets := p.targets.insert target { state with queue }
        health := p.health.countDrain target queue release stats },
      { batches := progress.batches ++
          (if release.isEmpty then [] else [⟨target, release.ordered⟩])
        idle := progress.idle ++
          (if queue.isEmpty && !configured.contains target then [target] else []) })

/-- Forgets a target that still holds nothing. -/
def prune (p : Pipeline) (target : String) : Pipeline :=
  match p.targets.get? target with
  | some state =>
    if state.queue.isEmpty then
      { p with targets := p.targets.erase target, health := p.health.forgetTarget target }
    else p
  | none => p

/-- Drains every target. -/
def drain (p : Pipeline) (now : Instant) : Pipeline × List Batch :=
  let configured := p.registry.targets.keys
  let (p, progress) := p.targets.keys.foldl
    (fun (p, progress) target => p.drainTarget configured now progress target) (p, {})
  ((progress.idle.foldl prune p).countTargets, progress.batches)

/-- Recognizes the children among the sightings of a target and queues their records; tells how
many there are. -/
def discoverIn (p : Pipeline) (now : Instant) (target : String) (state : TargetState) :
    TargetState × Nat :=
  let (sightings, records) :=
    state.sightings.discover p.registry target p.settings.rules now p.settings.horizon
  ({ sightings, queue := records.foldl (fun queue r => queue.append now r) state.queue },
    records.length)

/-- Recognizes the children of every target, and tells how many there are. -/
def discover (p : Pipeline) (now : Instant) : Pipeline × Nat :=
  let found := p.targets.map (p.discoverIn now)
  let count := found.values.foldl (fun count state => count + state.2) 0
  ({ p with
      targets := found.map fun _ state => state.1
      health := { p.health with
        deltasAppended := p.health.deltasAppended + count
        discoveries := p.health.discoveries + count } },
    count)

end Pipeline

end CloudCollector
