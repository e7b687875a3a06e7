import CloudCollector.Pipeline.Drain

/-!
# Deliveries

What waits in the pipeline is handed to collaborators one delivery at a time: a metric write, an
event, or the batch of one target. A collaborator accepts a delivery, refuses it, or does not
answer within the time that a call may take.
-/

namespace CloudCollector

/-- One call of a collaborator. -/
inductive Delivery where
  | metric (write : MetricWrite)
  | event (event : Event)
  | model (batch : Batch)
  deriving DecidableEq

namespace Delivery

/-- The number of items that a delivery carries. -/
def items : Delivery → Nat
  | metric _ | event _ => 1
  | model batch => batch.records.length

/-- The target of a batch; other deliveries have none. -/
def target? : Delivery → Option String
  | metric _ | event _ => none
  | model batch => some batch.target

end Delivery

/-- Why a delivery fails. -/
inductive DeliveryFault where
  /-- The collaborator refuses it. The causes go from the outermost to the innermost. -/
  | refused (causes : List String)
  /-- The collaborator does not answer in time. -/
  | timedOut (limit : Span)
  deriving DecidableEq

/-- The cause in words. -/
def DeliveryFault.message : DeliveryFault → String
  | refused causes => ": ".intercalate causes
  | timedOut limit => "timed out after " ++ limit.short

/-- What becomes of a delivery. -/
abbrev Outcome := Except DeliveryFault Unit

/-- Counts a delivery that was accepted. -/
def Health.countDelivery (h : Health) : Delivery → Health
  | .metric _ => { h with metricWrites := h.metricWrites + 1 }
  | .event _ => { h with eventsSent := h.eventsSent + 1 }
  | .model _ => { h with modelBatches := h.modelBatches + 1 }

end CloudCollector
