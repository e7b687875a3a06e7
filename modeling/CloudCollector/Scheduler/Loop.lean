import CloudCollector.Delivery.Cycle
import CloudCollector.Delivery.Rehearsal

/-!
# The loop of a task

Every task has a loop that waits for a tick and runs a cycle. A tick that finds its loop busy is
taken as soon as the cycle ends; when it is late by more than the tolerance, the ticks in between
are skipped and the next one keeps the rhythm. Times are counted in nanoseconds since the start,
and a timer goes off at a whole millisecond.
-/

namespace CloudCollector

/-- Nanoseconds in a millisecond. -/
abbrev nanosPerMilli : Nat := 1000000

/-- How late a tick may be without being counted as missed: five milliseconds. -/
abbrev tickTolerance : Nat := 5000000

/-- What a loop does. -/
inductive LoopPhase where
  /-- Waits for its tick. -/
  | waiting
  /-- Waits until a time for the answer to the current delivery of a cycle. -/
  | delivering (cycle : Cycle) (response : Response) (until_ : Nat) (final : Bool)
  /-- Has ended. -/
  | ended
  deriving DecidableEq

/-- The loop of a task. -/
structure TaskLoop where
  period : Span
  /-- When the next tick is due. -/
  due : Nat
  phase : LoopPhase := .waiting
  /-- The place of the loop among those that wait, by the time from which it does. -/
  turn : Nat
  deriving DecidableEq

namespace TaskLoop

/-- When a timer goes off that is set to `time`. -/
def timer (time : Nat) : Nat :=
  (time + (nanosPerMilli - 1)) / nanosPerMilli * nanosPerMilli

/-- When a loop goes on, if it does. -/
def wakeTime? (l : TaskLoop) : Option Nat :=
  match l.phase with
  | .waiting => some (timer l.due)
  | .delivering _ _ until_ _ => some (timer until_)
  | .ended => none

/-- When the tick after the one at `now` is due. -/
def nextDue (l : TaskLoop) (now : Nat) : Nat :=
  if l.due + tickTolerance < now then now + l.period.nanos - (now - l.due) % l.period.nanos
  else l.due + l.period.nanos

/-- Whether a loop goes on before another one. Of two at one time, the one goes first that waits
for longer. -/
def isBefore (a b : TaskLoop) : Bool :=
  match a.wakeTime?, b.wakeTime? with
  | some s, some t => s < t || (s == t && a.turn < b.turn)
  | some _, none => true
  | none, _ => false

end TaskLoop

end CloudCollector
