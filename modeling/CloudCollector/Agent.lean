import CloudCollector.Config.Check
import CloudCollector.Delivery.Cycle
import CloudCollector.Http.Address

/-!
# The agent

An agent puts a collector together: it sets up its exporter, takes the configurations of the
targets that are known from the start, and then listens. When it stops, every task that flushes
on a stop runs once more.
-/

namespace CloudCollector

/-- Where an agent delivers to. -/
inductive Exporter where
  | http (sink : HttpSink) (compression : Compression)
  | log
  deriving DecidableEq

/-- The exporter that a configuration asks for. -/
def Exporter.ofConfig (config : Config) : Except String Exporter :=
  match config.mode with
  | .http => config.http.check.map (.http config.http)
  | .log => .ok .log

/-- What becomes of a delivery; the log accepts everything. -/
def Exporter.answer {σ : Type} (exporter : Exporter) (carry : σ → Post → σ × PostReply) (s : σ)
    (d : Delivery) : σ × Outcome :=
  match exporter with
  | http sink compression => sink.answer compression carry s d
  | log => (s, .ok ())

/-- Why an agent does not run. -/
inductive AgentError where
  /-- Its exporter cannot be set up. -/
  | exporter (cause : String)
  /-- The configuration of a target is refused. -/
  | staticConfig (target : String) (cause : PipelineError)
  /-- It cannot listen where it should. -/
  | address
  deriving DecidableEq

/-- The causes of a refused operation, from the outermost to the innermost. A refused tuning is
a cause of its own. -/
def PipelineError.causes (e : PipelineError) : List String :=
  match e with
  | invalidTuning cause => [e.message, cause.message]
  | emptyTargetId | emptyTargetSystem => [e.message]

/-- The causes in words. -/
def AgentError.message : AgentError → String
  | exporter cause => "creating exporter: " ++ cause
  | staticConfig target cause =>
    ": ".intercalate (("applying static config for " ++ target) :: cause.causes)
  | address => "starting ingestion server"

/-- A collector. -/
structure Agent where
  config : Config
  exporter : Exporter
  pipeline : Pipeline

namespace Agent

/-- Puts a collector together. -/
def ofConfig (config : Config) : Except AgentError Agent :=
  match Exporter.ofConfig config with
  | .ok exporter => .ok { config, exporter, pipeline := { settings := config.settings } }
  | .error cause => .error (.exporter cause)

/-- Takes the configuration of one target. -/
def applyTarget (p : Pipeline) (entry : String × TargetConfig) : Except AgentError Pipeline :=
  match p.applyConfig entry.1 entry.2 with
  | (p, .ok ()) => .ok p
  | (_, .error cause) => .error (.staticConfig entry.1 cause)

/-- Takes the configurations of the targets and listens, on a machine that can bind the addresses
in `binds`. -/
def startOn (binds : String → Bool) (a : Agent) : Except AgentError Agent := do
  let pipeline ← a.config.targets.entries.foldlM applyTarget a.pipeline
  if binds (Http.bindAddress a.config.address) then return { a with pipeline } else throw .address

/-- Starts an agent where there is no network. -/
def start (a : Agent) : Except AgentError Agent :=
  a.startOn Http.isLocalAddress

/-- Runs the last cycles, over a network in state `s`. -/
def stop {σ : Type} (a : Agent) (carry : σ → Post → σ × PostReply) (now : Instant) (s : σ) :
    Agent × σ :=
  let flush (state : Pipeline × σ) (task : Task) : Pipeline × σ :=
    let (p, s, _) := Pipeline.runCycle (a.exporter.answer carry) state.1 now task state.2
    (p, s)
  let (pipeline, s) := (Task.all.filter Task.flushesOnStop).foldl flush (a.pipeline, s)
  ({ a with pipeline }, s)

end Agent

end CloudCollector
