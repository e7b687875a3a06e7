/-!
# The command line

The command takes the path of a configuration file and a level of logging, or is asked for its
version.
-/

namespace CloudCollector

/-- What the command is asked to do. -/
inductive Command where
  /-- Tell the version. -/
  | version
  /-- Run a collector, with the configuration in a file if one is named. -/
  | run (config : Option String) (logLevel : String)
  deriving DecidableEq

/-- Why the arguments are no command. -/
inductive UsageError where
  | unexpected (argument : String)
  | noValue (option : String)
  deriving DecidableEq

/-- The cause in words. -/
def UsageError.message : UsageError → String
  | unexpected argument => "unexpected argument '" ++ argument ++ "' found"
  | noValue option => "a value is required for '" ++ option ++ "' but none was supplied"

namespace Command

/-- The version of the command. -/
def versionText : String :=
  "fleetsync 0.1.0 (commit: unknown, linux/x86_64)"

/-- Reads the arguments after those that led to `config` and `logLevel`. -/
def readFrom (config : Option String) (logLevel : String) :
    List String → Except UsageError Command
  | [] => .ok (.run config logLevel)
  | ["version"] => .ok .version
  | "--config" :: path :: rest | "-c" :: path :: rest => readFrom (some path) logLevel rest
  | "--log-level" :: level :: rest => readFrom config level rest
  | [argument] =>
    if ["--config", "-c", "--log-level"].contains argument then .error (.noValue argument)
    else .error (.unexpected argument)
  | argument :: _ => .error (.unexpected argument)

/-- Reads the arguments. -/
def ofArguments (arguments : List String) : Except UsageError Command :=
  readFrom none "info" arguments

end Command

end CloudCollector
