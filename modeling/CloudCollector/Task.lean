import CloudCollector.Dict

/-!
# Tasks

Four tasks run again and again: three hand over what has queued up, the fourth looks for
resources that nobody models. Every task keeps count of its cycles.
-/

namespace CloudCollector

/-- A recurring task. -/
inductive Task where
  | metricFlush
  | eventFlush
  | datamapFlush
  | discovery
  deriving DecidableEq

namespace Task

/-- Every task, in the order in which they are listed and started. -/
def all : List Task :=
  [metricFlush, eventFlush, datamapFlush, discovery]

/-- Each task is among all tasks. -/
theorem mem_all (task : Task) : task ∈ all := by
  cases task <;> decide

/-- The name of a task. -/
def name : Task → String
  | metricFlush => "metric-flush"
  | eventFlush => "event-flush"
  | datamapFlush => "datamap-flush"
  | discovery => "subresource-discovery"

/-- The task with the given name. -/
def ofName? (name : String) : Option Task :=
  all.find? (·.name == name)

/-- Whether a task runs once more when it is stopped. -/
def flushesOnStop : Task → Bool
  | discovery => false
  | _ => true

end Task

/-- One value for each task. -/
structure PerTask (α : Type) where
  metricFlush : α
  eventFlush : α
  datamapFlush : α
  discovery : α
  deriving DecidableEq

namespace PerTask

variable {α : Type}

/-- The same value for every task. -/
def const (a : α) : PerTask α :=
  ⟨a, a, a, a⟩

/-- The value of a task. -/
def get (p : PerTask α) : Task → α
  | .metricFlush => p.metricFlush
  | .eventFlush => p.eventFlush
  | .datamapFlush => p.datamapFlush
  | .discovery => p.discovery

/-- Replaces the value of a task. -/
def set (p : PerTask α) (task : Task) (a : α) : PerTask α :=
  match task with
  | .metricFlush => { p with metricFlush := a }
  | .eventFlush => { p with eventFlush := a }
  | .datamapFlush => { p with datamapFlush := a }
  | .discovery => { p with discovery := a }

/-- What is given to one task is nothing to another. -/
@[simp]
theorem get_set (p : PerTask α) (task other : Task) (a : α) :
    (p.set task a).get other = if other = task then a else p.get other := by
  cases task <;> cases other <;> rfl

end PerTask

/-- The record of the cycles of a task. The counts have no bound: they are those of a counter of 64
bits while fewer than `2 ^ 64` cycles have ended. -/
structure TaskStatus where
  /-- Whether a cycle is going on. -/
  active : Bool := false
  /-- How many cycles ended. -/
  runs : Nat := 0
  /-- How many of them failed. -/
  errors : Nat := 0
  /-- Why the last one failed that did. -/
  lastError : Option String := none
  deriving DecidableEq, Inhabited

namespace TaskStatus

/-- A cycle begins. -/
def start (s : TaskStatus) : TaskStatus :=
  { s with active := true }

/-- A cycle ends, with the number of items that it handled or with the cause of its failure. -/
def finish (s : TaskStatus) (outcome : Except String Nat) : TaskStatus :=
  match outcome with
  | .ok _ => { s with active := false, runs := s.runs + 1 }
  | .error cause =>
    { active := false, runs := s.runs + 1, errors := s.errors + 1, lastError := some cause }

end TaskStatus

end CloudCollector
