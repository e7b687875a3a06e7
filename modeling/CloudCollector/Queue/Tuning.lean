import CloudCollector.Time.SpanText

/-!
# Tuning of a queue

Three windows decide how long a queue holds a record and how long it refuses one. A window is at
most a week long, and only the window of plain updates may be empty.
-/

namespace CloudCollector

/-- A window of a queue. -/
inductive Window where
  | shortlived
  | deleteBlacklist
  | updateConsolidate
  deriving DecidableEq

/-- The name of a window. -/
def Window.name : Window → String
  | shortlived => "shortlived"
  | deleteBlacklist => "delete_blacklist"
  | updateConsolidate => "update_consolidate"

/-- The length of a window unless it is tuned. -/
def Window.standard : Window → Span
  | shortlived => .ofSeconds 40
  | deleteBlacklist => .ofSeconds 600
  | updateConsolidate => .ofSeconds 40

/-- The windows of a queue. -/
structure Tuning where
  /-- How long a new entity is held back. -/
  shortlived : Span := Window.shortlived.standard
  /-- How long a deleted entity is refused. -/
  deleteBlacklist : Span := Window.deleteBlacklist.standard
  /-- How long a plain update is held back. -/
  updateConsolidate : Span := Window.updateConsolidate.standard
  deriving DecidableEq, Inhabited

/-- Why a tuning is refused. -/
inductive TuningError where
  /-- The window is empty. -/
  | zero (window : Window)
  /-- The window is longer than a week. -/
  | tooLong (window : Window)
  deriving DecidableEq

namespace Tuning

/-- The longest window. -/
def maxWindow : Span := .ofSeconds 604800

/-- The length of a window. -/
def length (t : Tuning) : Window → Span
  | .shortlived => t.shortlived
  | .deleteBlacklist => t.deleteBlacklist
  | .updateConsolidate => t.updateConsolidate

/-- Checks every window. -/
def validate (t : Tuning) : Except TuningError Unit :=
  if t.shortlived.isZero then .error (.zero .shortlived)
  else if t.deleteBlacklist.isZero then .error (.zero .deleteBlacklist)
  else if maxWindow < t.shortlived then .error (.tooLong .shortlived)
  else if maxWindow < t.deleteBlacklist then .error (.tooLong .deleteBlacklist)
  else if maxWindow < t.updateConsolidate then .error (.tooLong .updateConsolidate)
  else .ok ()

end Tuning

/-- The cause in words. -/
def TuningError.message : TuningError → String
  | zero window => window.name ++ " must be positive"
  | tooLong window => window.name ++ " must be at most " ++ Tuning.maxWindow.short

end CloudCollector
