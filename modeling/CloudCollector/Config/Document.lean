import CloudCollector.Config.Basic
import CloudCollector.Decode.Node

/-!
# Configuration files

A configuration file is a YAML document with a section for the service, the tasks, the queues,
discovery, the sinks and the targets. What a file leaves out has its default.
-/

namespace CloudCollector.Config

variable {ν : Type}

/-- The default of a section that the file leaves out. -/
def base : Config := {}

/-- The section of the service. -/
def addressReaders [Source ν] : Fields ν String :=
  id <$> .defaulted "addr" base.address Decode.string

/-- The section of the tasks. -/
def intervalReaders [Source ν] : Fields ν (PerTask Span) :=
  PerTask.mk <$> .defaulted "metric_flush_interval" base.intervals.metricFlush Span.decode
    <*> .defaulted "event_flush_interval" base.intervals.eventFlush Span.decode
    <*> .defaulted "datamap_flush_interval" base.intervals.datamapFlush Span.decode
    <*> .defaulted "discovery_interval" base.intervals.discovery Span.decode

/-- The section of discovery. -/
def discoveryReaders [Source ν] : Fields ν (Span × List Rule) :=
  Prod.mk <$> .defaulted "horizon" base.horizon Span.decode
    <*> .defaulted "rules" base.rules (Decode.list Rule.decode)

/-- The section of delivery over HTTP. -/
def httpReaders [Source ν] : Fields ν HttpSink :=
  HttpSink.mk <$> .defaulted "metrics_url" base.http.metricsUrl Decode.string
    <*> .defaulted "events_url" base.http.eventsUrl Decode.string
    <*> .defaulted "model_url" base.http.modelUrl Decode.string
    <*> .defaulted "headers" base.http.headers (Decode.dict Decode.string)
    <*> .defaulted "compression" base.http.compression Decode.string
    <*> .defaulted "request_timeout" base.http.requestTimeout Span.decode
    <*> .defaulted "keep_alive" base.http.keepAlive Source.flag

/-- The section of the sinks. -/
def sinkReaders [Source ν] : Fields ν (SinkMode × Span × HttpSink) :=
  (fun mode timeout http => (mode, timeout, http))
    <$> .defaulted "mode" base.mode (Decode.choice SinkMode.names)
    <*> .defaulted "call_timeout" base.callTimeout Span.decode
    <*> .defaulted "http" base.http (httpReaders.read "HttpSinkConfig")

/-- A configuration made of its sections. -/
def ofSections (logLevel address : String) (intervals : PerTask Span) (queue : Tuning)
    (discovery : Span × List Rule) (sinks : SinkMode × Span × HttpSink)
    (targets : Dict TargetConfig) : Config :=
  { logLevel, address, intervals, queue
    horizon := discovery.1
    rules := discovery.2
    mode := sinks.1
    callTimeout := sinks.2.1
    http := sinks.2.2
    targets }

/-- The sections of a configuration. -/
def readers [Source ν] : Fields ν Config :=
  ofSections <$> .defaulted "log_level" base.logLevel Decode.string
    <*> .defaulted "server" base.address (addressReaders.read "ServerConfig")
    <*> .defaulted "scheduler" base.intervals (intervalReaders.read "SchedulerConfig")
    <*> .defaulted "queue" base.queue Tuning.decode
    <*> .defaulted "discovery" (base.horizon, base.rules) (discoveryReaders.read "DiscoveryConfig")
    <*> .defaulted "sinks" (base.mode, base.callTimeout, base.http)
      (sinkReaders.read "SinksConfig")
    <*> .defaulted "targets" base.targets (Decode.dict TargetConfig.decode)

/-- Reads a configuration. -/
def decode [Source ν] : ν → Reading Config :=
  readers.read "Config"

end CloudCollector.Config
