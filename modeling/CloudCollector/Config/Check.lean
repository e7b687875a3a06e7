import CloudCollector.Config.Document

/-!
# Checking a configuration

A configuration is refused when the collector could not run with it. The first fault in the order
of the sections is named.
-/

namespace CloudCollector

/-- Why a configuration is refused. -/
inductive ConfigFault where
  | noAddress
  | zeroInterval (task : Task)
  | badTuning (place : String) (cause : TuningError)
  | zeroHorizon
  /-- A rule of discovery leaves a field empty. -/
  | emptyRuleField (index : Nat) (field : String)
  | zeroCallTimeout
  /-- Delivery over HTTP is asked for without an address to deliver to. -/
  | noUrl (field : String)
  | zeroRequestTimeout
  | unknownCompression (name : String)
  | emptyTargetName
  /-- A datasource of a target has no resource. -/
  | emptyResourceId (target : String)
  deriving DecidableEq

/-- The cause in words. -/
def ConfigFault.message : ConfigFault → String
  | noAddress => "server.addr is required"
  | zeroInterval task => "scheduler interval for " ++ task.name ++ " must be positive"
  | badTuning place cause => place ++ "." ++ cause.message
  | zeroHorizon => "discovery.horizon must be positive"
  | emptyRuleField index field =>
    "discovery.rules[" ++ toString index ++ "]." ++ field ++ " is required"
  | zeroCallTimeout => "sinks.call_timeout must be positive"
  | noUrl field => "sinks.http." ++ field ++ " is required when mode is http"
  | zeroRequestTimeout => "sinks.http.request_timeout must be positive"
  | unknownCompression name => "invalid compression type: " ++ name
  | emptyTargetName => "target system id must not be empty"
  | emptyResourceId target => "targets." ++ target ++ ": datasource resource_id is required"

namespace Config

/-- Names a fault unless something holds. -/
def ensure (holds : Bool) (fault : ConfigFault) : Except ConfigFault Unit :=
  if holds then .ok () else .error fault

/-- Checks a tuning that stands at some place of the configuration. -/
def checkTuning (place : String) (tuning : Tuning) : Except ConfigFault Unit :=
  tuning.validate.mapError (.badTuning place)

/-- Checks a rule of discovery. -/
def checkRule (rule : Rule) (index : Nat) : Except ConfigFault Unit := do
  ensure (rule.meterPrefix != "") (.emptyRuleField index "meter_prefix")
  ensure (rule.parentKind != "") (.emptyRuleField index "parent_kind")
  ensure (rule.childIdPrefix != "") (.emptyRuleField index "child_id_prefix")

/-- The names of the compressions that may be asked for. -/
def compressionNames : List String :=
  ["none", "", "gzip", "zstd", "zlib"]

/-- Checks delivery over HTTP. -/
def checkHttp (sink : HttpSink) : Except ConfigFault Unit := do
  ensure (sink.metricsUrl != "") (.noUrl "metrics_url")
  ensure (sink.eventsUrl != "") (.noUrl "events_url")
  ensure (sink.modelUrl != "") (.noUrl "model_url")
  ensure (!sink.requestTimeout.isZero) .zeroRequestTimeout
  ensure (compressionNames.contains sink.compression) (.unknownCompression sink.compression)

/-- Checks a target. -/
def checkTarget (target : String) (config : TargetConfig) : Except ConfigFault Unit := do
  ensure (target != "") .emptyTargetName
  checkTuning ("targets." ++ target ++ ".queue") config.queue
  ensure (config.datasources.all fun ds => ds.resourceId != "") (.emptyResourceId target)

/-- Checks a configuration. -/
def validate (c : Config) : Except ConfigFault Unit := do
  ensure (c.address != "") .noAddress
  Task.all.forM fun task => ensure (!(c.intervals.get task).isZero) (.zeroInterval task)
  checkTuning "queue" c.queue
  ensure (!c.horizon.isZero) .zeroHorizon
  c.rules.zipIdx.forM fun (rule, index) => checkRule rule index
  ensure (!c.callTimeout.isZero) .zeroCallTimeout
  if c.mode = .http then checkHttp c.http
  c.targets.entries.forM fun (target, config) => checkTarget target config

end Config

/-- Why no configuration is loaded. -/
inductive ConfigError where
  /-- The file cannot be read. -/
  | unreadable (path : String)
  /-- The text is no configuration. -/
  | malformed
  /-- The configuration is refused. -/
  | refused (fault : ConfigFault)
  deriving DecidableEq

/-- The cause in words. -/
def ConfigError.message : ConfigError → String
  | unreadable path => "reading config file " ++ path
  | malformed => "parsing config file"
  | refused fault => fault.message

namespace Config

/-- Reads a configuration without checking it. -/
def read (text : String) : Except ConfigError Config :=
  (Yaml.decodeText decode text).mapError fun _ => .malformed

/-- Reads and checks a configuration. -/
def load (text : String) : Except ConfigError Config := do
  let config ← read text
  config.validate.mapError .refused
  return config

end Config

end CloudCollector
