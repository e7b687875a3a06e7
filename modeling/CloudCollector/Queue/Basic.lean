import CloudCollector.Model.Record
import CloudCollector.Queue.Tuning

/-!
# Consolidation queues

A queue holds the records of one target system until it is worth sending them. At most one
record is held for each entity; later records of the entity are merged into it and leave with it.
The ids of deleted entities are refused for a while.
-/

namespace CloudCollector

/-- A record that waits, with the time at which its first version arrived. -/
structure Held where
  firstSeen : Instant
  record : Record
  deriving DecidableEq

/-- The queue of one target system. -/
structure Queue where
  tuning : Tuning
  /-- The waiting records by the id of their entity. -/
  held : Dict Held := .empty
  /-- The refused ids, each with the time since when it is refused. -/
  blacklist : Dict Instant := .empty
  /-- When records were last released. -/
  lastRelease : Option Instant := none
  /-- How many records were ever released. The count has no bound: it is that of a counter of 64
  bits while fewer than `2 ^ 64` records were released. -/
  releasedTotal : Nat := 0
  deriving DecidableEq

namespace Queue

/-- The number of waiting records. -/
def size (q : Queue) : Nat :=
  q.held.size

/-- Whether no record waits. -/
def isEmpty (q : Queue) : Bool :=
  q.held.isEmpty

/-- Whether records of the entity are refused. -/
def isBlacklisted (q : Queue) (id : String) : Bool :=
  q.blacklist.contains id

/-- Replaces the windows. Records that already wait are judged by the new ones. -/
def setTuning (q : Queue) (tuning : Tuning) : Queue :=
  { q with tuning }

/-- Forgets every waiting record and every refused id. -/
def reset (q : Queue) : Queue :=
  { q with held := .empty, blacklist := .empty }

/-- What waits for an entity after a record of it arrives: the first record opens an entry, later
ones are merged into it. -/
def arrive (now : Instant) (r : Record) : Option Held → Held
  | none => ⟨now, r⟩
  | some held => { held with record := held.record.merge r }

/-- Adds a record. -/
def append (q : Queue) (now : Instant) (r : Record) : Queue :=
  { q with held := q.held.insert r.targetId (arrive now r (q.held.get? r.targetId)) }

end Queue

end CloudCollector
