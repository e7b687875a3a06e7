import CloudCollector.Discovery.Rule
import CloudCollector.Registry.Basic

/-!
# Sightings

The ids of resources that telemetry mentions and nobody models are noted with the time of their
first sighting. A discovery matches every id that is not too old against the possible parents of
each rule, and emits one record for the first match; an id is emitted once.
-/

namespace CloudCollector

/-- The ids that telemetry mentioned in one target system. -/
structure Sightings where
  /-- The ids, with the time at which each was first seen. -/
  potential : Dict Instant := .empty
  /-- The ids for which a record was emitted. -/
  modeled : Dict Unit := .empty
  deriving DecidableEq, Inhabited

namespace Sightings

/-- For how long a sighting may be matched unless something else is configured. -/
def standardHorizon : Span := .ofSeconds 1200

/-- Whether a record was emitted for an id. -/
def isModeled (s : Sightings) (id : String) : Bool :=
  s.modeled.contains id

/-- Notes that an id was seen. Only the first sighting counts, and none of an id for which a record
was emitted. -/
def note (s : Sightings) (id : String) (now : Instant) : Sightings :=
  if s.isModeled id || s.potential.contains id then s
  else { s with potential := s.potential.insert id now }

/-- The ids that may still be matched, in increasing order: those without a record that were first
seen less than `horizon` ago. -/
def pending (s : Sightings) (now : Instant) (horizon : Span) : List String :=
  (s.potential.filter fun id seen => !s.isModeled id && now.since seen < horizon).keys

/-- The record for a candidate, if a resource is its parent: the first rule decides, and for one
rule the least id of a parent. -/
def matchCandidate (registry : Registry) (target : String) (rules : List Rule)
    (candidate : String) : Option Record :=
  rules.findSome? fun rule =>
    (registry.idsOfKind target rule.parentKind).findSome? fun parent => do
      let suffix ← Rule.suffix? candidate parent
      let component ← registry.componentFor? target parent
      return rule.childRecord candidate parent component suffix

/-- The pending ids that match, each with its record. -/
def matched (s : Sightings) (registry : Registry) (target : String) (rules : List Rule)
    (now : Instant) (horizon : Span) : List (String × Record) :=
  (s.pending now horizon).filterMap fun id =>
    (matchCandidate registry target rules id).map fun record => (id, record)

/-- Emits the records of the pending ids that match. An id that does not match stays noted. -/
def discover (s : Sightings) (registry : Registry) (target : String) (rules : List Rule)
    (now : Instant) (horizon : Span) : Sightings × List Record :=
  let found := s.matched registry target rules now horizon
  ({ s with modeled := s.modeled.insertAll (found.map (·.1)) () }, found.map (·.2))

end Sightings

end CloudCollector
