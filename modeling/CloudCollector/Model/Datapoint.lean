import CloudCollector.Dict
import CloudCollector.Number.Binary64
import CloudCollector.Time.Basic

/-!
# Datapoints and measurements

A configuration push names the datapoints that a meter feeds. A sample is one reading of a meter,
and a write is one value on its way to a datapoint.
-/

namespace CloudCollector

/-- How the values of a datapoint are stored. -/
inductive DatapointKind where
  | gauge
  | counter
  | derive
  | absolute
  deriving DecidableEq

namespace DatapointKind

instance : Inhabited DatapointKind := ⟨gauge⟩

/-- Every kind with its name. -/
def names : List (String × DatapointKind) :=
  [("gauge", gauge), ("counter", counter), ("derive", derive), ("absolute", absolute)]

/-- The name of a kind. -/
def name : DatapointKind → String
  | gauge => "gauge"
  | counter => "counter"
  | derive => "derive"
  | absolute => "absolute"

end DatapointKind

/-- A destination of metric values. -/
structure Datapoint where
  /-- The id within its datasource. -/
  id : String
  /-- The full name. -/
  name : String
  /-- The component that owns it. -/
  component : String := ""
  /-- The path of its series. -/
  path : String
  kind : DatapointKind := .gauge
  min : Option Binary64 := none
  max : Option Binary64 := none
  /-- Tags that go with every write. -/
  metadata : Dict String := .empty
  deriving DecidableEq

/-- One reading of a meter. -/
structure Sample where
  resourceId : String
  meter : String
  volume : Binary64
  time : Instant
  deriving DecidableEq

/-- One value on its way to a datapoint. -/
structure MetricWrite where
  datapoint : Datapoint
  value : Binary64
  time : Instant
  deriving DecidableEq

end CloudCollector
