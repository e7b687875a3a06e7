import CloudCollector.Queue.Basic

/-!
# Releasing records

A drain forgets the ids that were refused for long enough, drops what was created and deleted
while it waited and what is refused, and releases what is due: a deletion at once, a creation and
a plain update each after their window. Creations come first; where two of a batch refer to each
other, the references follow in records of their own, so that every entity exists before
something points at it.
-/

namespace CloudCollector

/-- What a drain releases, in the order in which it is to be applied. -/
structure Release where
  /-- Records that create an entity, without references to others of them. -/
  creates : List Record := []
  /-- The references between the created entities. -/
  links : List Record := []
  /-- Updates and deletions. -/
  updates : List Record := []
  deriving DecidableEq

namespace Release

/-- All records in the order in which they are to be applied. -/
def ordered (r : Release) : List Record :=
  r.creates ++ r.links ++ r.updates

/-- The number of records. -/
def size (r : Release) : Nat :=
  r.creates.length + r.links.length + r.updates.length

/-- Whether nothing is released. -/
def isEmpty (r : Release) : Bool :=
  r.size == 0

/-- Moves references between created entities behind all creations. A single creation keeps its
references. -/
def split (r : Release) : Release :=
  if r.creates.length < 2 then r
  else
    let ids := r.creates.map (·.targetId)
    { r with
      creates := r.creates.map fun c => c.withoutLinks ids
      links := r.creates.filterMap fun c => c.links? ids }

end Release

/-- What became of the records and ids of a queue in one drain. -/
structure DrainStats where
  /-- Records that were released, those with split references included. -/
  released : Nat := 0
  /-- Entities that were created and deleted while they waited. -/
  shortlived : Nat := 0
  /-- Records that were dropped because their id is refused. -/
  suppressed : Nat := 0
  /-- Ids that are no longer refused. -/
  expired : Nat := 0
  deriving DecidableEq

/-- Whether a waiting record creates and deletes its entity. -/
def Held.isShortlived (h : Held) : Bool :=
  h.record.creates && h.record.deletes

namespace Queue

/-- When a waiting record is due, if that time is representable. -/
def releaseTime (tuning : Tuning) (now : Instant) (h : Held) : Option Instant :=
  if h.record.deletes then some now
  else if h.record.creates then h.firstSeen.add? tuning.shortlived
  else h.firstSeen.add? tuning.updateConsolidate

/-- Whether a waiting record is due. What has no release time never is. -/
def isDue (tuning : Tuning) (now : Instant) (h : Held) : Bool :=
  (releaseTime tuning now h).any fun t => t ≤ now

/-- The refused ids without those whose window has passed. -/
def unexpired (q : Queue) (now : Instant) : Dict Instant :=
  q.blacklist.filter fun _ added => now.since added ≤ q.tuning.deleteBlacklist

/-- The ids of waiting records that create and delete their entity. -/
def shortlivedIds (q : Queue) : List String :=
  (q.held.filter fun _ h => h.isShortlived).keys

/-- What a drain finds before it releases anything: the refused ids, with those of short-lived
entities, and the waiting records that are not refused. -/
def admitted (q : Queue) (now : Instant) : Dict Instant × Dict Held :=
  let refused := (q.unexpired now).insertAll q.shortlivedIds now
  (refused, q.held.filter fun id _ => !refused.contains id)

/-- Groups due records: creations, then everything else. -/
def group (due : Dict Held) : Release :=
  let records := due.values.map (·.record)
  { creates := records.filter (·.creates), updates := records.filter fun r => !r.creates }

/-- Releases every record that is due at `now`. -/
def drain (q : Queue) (now : Instant) : Queue × Release × DrainStats :=
  let (refused, waiting) := q.admitted now
  let due := waiting.filter fun _ h => isDue q.tuning now h
  let deleted := (due.filter fun _ h => h.record.deletes).keys
  let release := (group due).split
  let stats : DrainStats :=
    { released := release.size
      shortlived := q.shortlivedIds.length
      suppressed := q.held.size - waiting.size - q.shortlivedIds.length
      expired := q.blacklist.size - (q.unexpired now).size }
  let queue :=
    { q with
      held := waiting.filter fun _ h => !isDue q.tuning now h
      blacklist := refused.insertAll deleted now
      lastRelease := if 0 < stats.released then some now else q.lastRelease
      releasedTotal := q.releasedTotal + stats.released }
  (queue, release, stats)

end Queue

end CloudCollector
