import CloudCollector.Dict

/-!
# Health metrics

Counters tell what happened since the start, gauges how things stand. A labelled family has one
value for each label that was ever used, and a gauge may lose its label again.
-/

namespace CloudCollector

/-- The health of a collector in numbers. The counts have no bound: they are those of counters that
are kept as doubles, which count by one exactly, up to `2 ^ 53`. -/
structure Health where
  samplesReceived : Nat := 0
  /-- Samples that feed no datapoint. -/
  samplesUnmonitored : Nat := 0
  eventsReceived : Nat := 0
  /-- Events that changed the model. -/
  eventsMapped : Nat := 0
  /-- Refused requests by reason. -/
  ingestRejected : Dict Nat := .empty
  /-- Records that were added to a queue. -/
  deltasAppended : Nat := 0
  /-- Records that were released, by group. -/
  deltasReleased : Dict Nat := .empty
  /-- Records that a drain dropped, by reason. -/
  deltasSuppressed : Dict Nat := .empty
  /-- Records that were refused before they reached a queue. -/
  deltasRejected : Nat := 0
  /-- Waiting records by target. -/
  datamapHeld : Dict Nat := .empty
  /-- Refused ids by target. -/
  blacklisted : Dict Nat := .empty
  /-- Children that were discovered. -/
  discoveries : Nat := 0
  /-- Targets with a state. -/
  targetSystems : Nat := 0
  /-- Items that wait for delivery, by queue. -/
  queueDepth : Dict Nat := .empty
  metricWrites : Nat := 0
  eventsSent : Nat := 0
  modelBatches : Nat := 0
  /-- Cycles by task. -/
  taskRuns : Dict Nat := .empty
  /-- Failed cycles by task. -/
  taskErrors : Dict Nat := .empty
  deriving DecidableEq, Inhabited

/-- Adds to the counter with a label. -/
def Dict.count (family : Dict Nat) (label : String) (n : Nat) : Dict Nat :=
  family.update label 0 (· + n)

namespace Health

/-- Counts a refused request. -/
def reject (h : Health) (reason : String) : Health :=
  { h with ingestRejected := h.ingestRejected.count reason 1 }

/-- Sets the number of metric writes that wait. -/
def setMetricDepth (h : Health) (n : Nat) : Health :=
  { h with queueDepth := h.queueDepth.insert "metric" n }

/-- Sets the number of events that wait. -/
def setEventDepth (h : Health) (n : Nat) : Health :=
  { h with queueDepth := h.queueDepth.insert "event" n }

/-- Removes the gauges of a target. -/
def forgetTarget (h : Health) (target : String) : Health :=
  { h with
    datamapHeld := h.datamapHeld.erase target
    blacklisted := h.blacklisted.erase target }

end Health

end CloudCollector
