import CloudCollector.Delivery.HttpSink
import CloudCollector.Pipeline.Basic

/-!
# The configuration of a collector

Everything has a default: a collector without a configuration file listens on port 8242, delivers
to the log, runs its tasks once a minute and knows no target.
-/

namespace CloudCollector

/-- Where deliveries go. -/
inductive SinkMode where
  | http
  | log
  deriving DecidableEq, Inhabited

/-- Every mode with its name. -/
def SinkMode.names : List (String × SinkMode) :=
  [("http", http), ("log", log)]

/-- How often a task runs unless something else is configured. -/
def standardInterval : Span := .ofSeconds 60

/-- How long a call of a collaborator may take unless something else is configured. -/
def standardCallTimeout : Span := .ofSeconds 30

/-- The configuration of a collector. -/
structure Config where
  /-- How much is logged. -/
  logLevel : String := "info"
  /-- Where the service listens. -/
  address : String := ":8242"
  /-- How often each task runs. -/
  intervals : PerTask Span := .const standardInterval
  /-- The tuning of the queues of targets that nobody configured. -/
  queue : Tuning := {}
  /-- For how long a sighting may be matched. -/
  horizon : Span := Sightings.standardHorizon
  /-- The rules of discovery. -/
  rules : List Rule := [.networkInterfaces]
  mode : SinkMode := .log
  /-- How long a call of a collaborator may take. -/
  callTimeout : Span := standardCallTimeout
  http : HttpSink := {}
  /-- The targets that are configured at the start. -/
  targets : Dict TargetConfig := .empty
  deriving DecidableEq

/-- What a configuration means to the pipeline. -/
def Config.settings (c : Config) : Settings :=
  { defaultTuning := c.queue, rules := c.rules, horizon := c.horizon }

end CloudCollector
