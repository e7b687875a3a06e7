import CloudCollector.Model.Datapoint
import CloudCollector.Queue.Tuning

/-!
# Configuration pushes

A push tells everything about one target system: which resources are modeled by which component,
which datapoints their meters feed, which events may change the model, and how the queue of the
target is tuned.
-/

namespace CloudCollector

/-- A resource of a target system. -/
structure Datasource where
  /-- The id under which telemetry reports the resource. -/
  resourceId : String
  /-- The component that models it. -/
  component : String
  /-- The kind of the component. -/
  componentKind : String := ""
  /-- The datapoints that each meter feeds. -/
  meters : Dict (List Datapoint) := .empty
  deriving DecidableEq

/-- The configuration of one target system. -/
structure TargetConfig where
  datasources : List Datasource := []
  /-- The types of the events that may change the model. -/
  eventTypes : List String := []
  /-- How the queue of the target is tuned. -/
  queue : Tuning := {}
  deriving DecidableEq, Inhabited

end CloudCollector
