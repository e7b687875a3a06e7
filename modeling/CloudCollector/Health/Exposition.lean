import CloudCollector.Health.Basic

/-!
# Exposition of health metrics

The families are listed by name, each with its help, its type and one line per label value in
increasing order. A labelled family without labels is left out.
-/

namespace CloudCollector

/-- What stands before the name of every family. -/
def metricNamespace : String := "fleetsync_"

/-- The values of a family. -/
inductive FamilyValues where
  /-- One value without label. -/
  | plain (value : Nat)
  /-- One value per label. -/
  | labelled (label : String) (values : Dict Nat)

/-- A family of health metrics. -/
structure Family where
  name : String
  help : String
  /-- Whether its values only grow. -/
  isCounter : Bool
  values : FamilyValues

namespace Family

/-- The value of a label between quotes. -/
def escapeLabel (value : String) : String :=
  String.ofList (value.toList.flatMap fun
    | '\\' => ['\\', '\\']
    | '"' => ['\\', '"']
    | '\n' => ['\\', 'n']
    | c => [c])

/-- The lines of a family. -/
def lines (f : Family) : List String :=
  let name := metricNamespace ++ f.name
  let head := ["# HELP " ++ name ++ " " ++ f.help,
    "# TYPE " ++ name ++ (if f.isCounter then " counter" else " gauge")]
  match f.values with
  | .plain value => head ++ [name ++ " " ++ toString value]
  | .labelled label values =>
    if values.isEmpty then []
    else head ++ values.entries.map fun entry =>
      name ++ "\x7b" ++ label ++ "=\"" ++ escapeLabel entry.1 ++ "\"\x7d " ++ toString entry.2

end Family

namespace Health

/-- The families, by name. -/
def families (h : Health) : List Family :=
  [⟨"blacklisted", "Blacklisted entity ids per target system.", false,
      .labelled "target" h.blacklisted⟩,
    ⟨"datamap_held", "Delta records held per target system.", false,
      .labelled "target" h.datamapHeld⟩,
    ⟨"deltas_appended_total", "Total delta records appended.", true, .plain h.deltasAppended⟩,
    ⟨"deltas_rejected_total", "Total delta records rejected before queueing.", true,
      .plain h.deltasRejected⟩,
    ⟨"deltas_released_total", "Total delta records released by group.", true,
      .labelled "group" h.deltasReleased⟩,
    ⟨"deltas_suppressed_total", "Total delta records dropped at drain by reason.", true,
      .labelled "reason" h.deltasSuppressed⟩,
    ⟨"discoveries_total", "Total sub-resources discovered.", true, .plain h.discoveries⟩,
    ⟨"events_mapped_total", "Total events translated into model changes.", true,
      .plain h.eventsMapped⟩,
    ⟨"events_received_total", "Total control-plane events received.", true,
      .plain h.eventsReceived⟩,
    ⟨"events_sent_total", "Total events delivered.", true, .plain h.eventsSent⟩,
    ⟨"ingest_rejected_total", "Total ingestion requests rejected by reason.", true,
      .labelled "reason" h.ingestRejected⟩,
    ⟨"metric_writes_total", "Total metric writes delivered.", true, .plain h.metricWrites⟩,
    ⟨"model_batches_total", "Total model batches applied.", true, .plain h.modelBatches⟩,
    ⟨"queue_depth", "Items waiting for delivery by queue.", false,
      .labelled "queue" h.queueDepth⟩,
    ⟨"samples_received_total", "Total telemetry samples received.", true,
      .plain h.samplesReceived⟩,
    ⟨"samples_unmonitored_total", "Total samples with no configured datapoint.", true,
      .plain h.samplesUnmonitored⟩,
    ⟨"target_systems", "Target systems with pipeline state.", false, .plain h.targetSystems⟩,
    ⟨"task_errors_total", "Total failed scheduler task cycles by task.", true,
      .labelled "task" h.taskErrors⟩,
    ⟨"task_runs_total", "Total scheduler task cycles by task.", true,
      .labelled "task" h.taskRuns⟩]

/-- The text that is served to a monitor. -/
def exposition (h : Health) : String :=
  String.join ((h.families.flatMap Family.lines).map (· ++ "\n"))

end Health

end CloudCollector
