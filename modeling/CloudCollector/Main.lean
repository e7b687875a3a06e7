import CloudCollector.Agent
import CloudCollector.CommandLine

/-!
# Running the command

The command loads its configuration, puts a collector together and starts it. There is no network
here: nothing can be ingested, so the collector stops at once, with the last cycles of its tasks.
-/

namespace CloudCollector

/-- Loads the configuration in a file, or checks the default one. -/
def loadConfig : Option String → IO (Except ConfigError Config)
  | none => return Config.load ""
  | some path => do
    try
      return Config.load (← IO.FS.readFile path)
    catch _ =>
      return .error (.unreadable path)

/-- Starts a collector, and stops it. -/
def runAgent (config : Config) : Except AgentError Agent := do
  let agent ← (← Agent.ofConfig config).start
  return (agent.stop (fun () _ => ((), .unreachable)) .epoch ()).1

/-- Tells a failure. -/
def fail (cause : String) : IO UInt32 := do
  IO.eprintln ("Error: " ++ cause)
  return 1

/-- Does what the arguments ask for. -/
def runCommand (arguments : List String) : IO UInt32 := do
  match Command.ofArguments arguments with
  | .error cause => fail cause.message
  | .ok .version =>
    IO.println Command.versionText
    return 0
  | .ok (.run path _) =>
    match ← loadConfig path with
    | .error cause => fail cause.message
    | .ok config =>
      match runAgent config with
      | .error cause => fail cause.message
      | .ok _ => return 0

end CloudCollector

/-- The entry of the program. -/
def main (arguments : List String) : IO UInt32 :=
  CloudCollector.runCommand arguments
