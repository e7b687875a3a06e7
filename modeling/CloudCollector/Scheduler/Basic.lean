import CloudCollector.Scheduler.Loop

/-!
# The scheduler

The scheduler runs the loops of all tasks on one pipeline, against rehearsed collaborators and a
clock that only moves when time is let pass. When it is stopped, every loop ends after the cycle
that it is in; the tasks that flush on a stop run a last cycle first.
-/

namespace CloudCollector

/-- The loops of all tasks on one pipeline. -/
structure Scheduler where
  pipeline : Pipeline
  rehearsal : Rehearsal := {}
  loops : PerTask TaskLoop
  /-- How long a call of a collaborator may take. -/
  limit : Span
  /-- The time at the start. -/
  started : Instant
  /-- The nanoseconds since the start. -/
  elapsed : Nat := 0
  /-- How often a loop began to wait for a tick or for an answer. -/
  turns : Nat := 4
  stopping : Bool := false

namespace Scheduler

/-- A scheduler that starts now. A loop without a period never runs. -/
def start (pipeline : Pipeline) (intervals : PerTask Span) (limit : Span) (started : Instant) :
    Scheduler :=
  let loop (task : Task) (turn : Nat) : TaskLoop :=
    let period := intervals.get task
    { period, due := period.nanos, turn, phase := if period.isZero then .ended else .waiting }
  { pipeline, limit, started
    loops :=
      { metricFlush := loop .metricFlush 0
        eventFlush := loop .eventFlush 1
        datamapFlush := loop .datamapFlush 2
        discovery := loop .discovery 3 } }

/-- What the clock shows. -/
def now (s : Scheduler) : Instant :=
  ((Span.ofNanos? s.elapsed).bind s.started.add?).getD s.started

/-- The whole milliseconds since the start. -/
def millis (s : Scheduler) : Nat :=
  s.elapsed / nanosPerMilli

/-- Ends a loop. -/
def endLoop (s : Scheduler) (task : Task) : Scheduler :=
  { s with loops := s.loops.set task { s.loops.get task with phase := .ended } }

/-- Lets a loop wait, behind those that already do. -/
def await (s : Scheduler) (task : Task) (phase : LoopPhase) : Scheduler :=
  { s with
    loops := s.loops.set task { s.loops.get task with phase, turn := s.turns }
    turns := s.turns + 1 }

/-- Carries a cycle on with the outcome of its current delivery. -/
def settle (s : Scheduler) (c : Cycle) (d : Delivery) (outcome : Outcome) : Scheduler :=
  { s with
    pipeline := (s.pipeline.settle c outcome).1
    rehearsal := s.rehearsal.note s.millis d outcome }

/-- Carries a cycle on until a collaborator takes its time over a delivery; what is left of the
cycle, with the answer to come, is nothing if the cycle ends. -/
def carryOn (s : Scheduler) (c : Cycle) : Scheduler × Option (Cycle × Response) :=
  match h : c.pending with
  | [] => ({ s with pipeline := s.pipeline.endCycle c }, none)
  | d :: _ =>
    let response := s.rehearsal.respond d
    let outcome := response.outcome s.limit
    if response.duration s.limit = 0 then
      have := Cycle.length_pending_settle_lt h outcome
      carryOn (s.settle c d outcome) (c.settle outcome)
    else (s, some (c, response))
termination_by c.pending.length

/-- Lets a loop wait for the answer to a delivery. -/
def awaitAnswer (s : Scheduler) (task : Task) (c : Cycle) (response : Response) (final : Bool) :
    Scheduler :=
  s.await task
    (.delivering c response (s.elapsed + response.duration s.limit * nanosPerMilli) final)

/-- Begins a cycle and carries it on. -/
def beginCycle (s : Scheduler) (task : Task) : Scheduler × Option (Cycle × Response) :=
  let (pipeline, c) := s.pipeline.beginCycle s.now task
  { s with pipeline }.carryOn c

/-- Runs the last cycle of a loop. -/
def runLast (s : Scheduler) (task : Task) : Scheduler :=
  if task.flushesOnStop then
    match s.beginCycle task with
    | (s, some (c, response)) => s.awaitAnswer task c response true
    | (s, none) => s.endLoop task
  else s.endLoop task

/-- What a loop does after a cycle, of which `final` tells whether it was the last. -/
def afterCycle (s : Scheduler) (task : Task) (final : Bool) : Scheduler :=
  if final then s.endLoop task
  else if s.stopping then s.runLast task
  else s.await task .waiting

/-- Goes on with what is left of a cycle. -/
def goOn (task : Task) (final : Bool) : Scheduler × Option (Cycle × Response) → Scheduler
  | (s, some (c, response)) => s.awaitAnswer task c response final
  | (s, none) => s.afterCycle task final

/-- A loop takes its tick. -/
def tick (s : Scheduler) (task : Task) : Scheduler :=
  let l := s.loops.get task
  goOn task false
    ({ s with loops := s.loops.set task { l with due := l.nextDue s.elapsed } }.beginCycle task)

/-- A loop goes on. -/
def wake (s : Scheduler) (task : Task) : Scheduler :=
  match (s.loops.get task).phase with
  | .waiting => s.tick task
  | .delivering c response _ final =>
    match c.current? with
    | some d =>
      let outcome := response.outcome s.limit
      goOn task final ((s.settle c d outcome).carryOn (c.settle outcome))
    | none => goOn task final (s.carryOn c)
  | .ended => s

/-- The task whose loop goes on next. -/
def nextTask (s : Scheduler) : Task :=
  Task.all.foldl
    (fun best task => if (s.loops.get task).isBefore (s.loops.get best) then task else best)
    .metricFlush

/-- Lets the loops go on, in their order and at most `fuel` times, while none goes on after
`until?`. -/
def run (until? : Option Nat) : (fuel : Nat) → Scheduler → Scheduler
  | 0, s => s
  | fuel + 1, s =>
    match (s.loops.get s.nextTask).wakeTime? with
    | none => s
    | some time =>
      if until?.any (· < time) then s
      else run until? fuel ({ s with elapsed := max s.elapsed time }.wake s.nextTask)

/-- How often the loops go on at most while some time passes: a loop ticks once a period, with
those ticks that it takes late, and between two answers a millisecond passes. -/
def maxWakes (s : Scheduler) (d : Span) : Nat :=
  let ticks (l : TaskLoop) := (d.nanos + tickTolerance + nanosPerMilli) / l.period.nanos + 2
  Task.all.foldl (fun n task => n + ticks (s.loops.get task) + d.ceilMillis + 2) 0

/-- Lets time pass. -/
def advance (s : Scheduler) (d : Span) : Scheduler :=
  let ends := s.elapsed + d.nanos
  { run (some ends) (s.maxWakes d) s with elapsed := ends }

/-- The number of deliveries that may be left to a loop. -/
def deliveriesLeft (l : TaskLoop) : Nat :=
  match l.phase with
  | .delivering c _ _ _ => c.pending.length
  | .waiting | .ended => 0

/-- How often the loops go on at most until all have ended: once for each delivery in a cycle
or still to come. -/
def maxLastWakes (s : Scheduler) : Nat :=
  Task.all.foldl (fun n task => n + deliveriesLeft (s.loops.get task) + 1)
    (s.pipeline.metrics.length + s.pipeline.events.length + s.pipeline.targets.size)

/-- Lets a loop that waits for its tick run its last cycle. -/
def cancel (s : Scheduler) (task : Task) : Scheduler :=
  match (s.loops.get task).phase with
  | .waiting => s.runLast task
  | .delivering .. | .ended => s

/-- Stops every loop and waits until all have ended. -/
def stop (s : Scheduler) : Scheduler :=
  let wakes := s.maxLastWakes
  run none wakes (Task.all.foldl cancel { s with stopping := true })

/-- Reports what the collaborators accepted since the last report. -/
def report (s : Scheduler) : Scheduler × List Recorded :=
  let (rehearsal, recorded) := s.rehearsal.report
  ({ s with rehearsal }, recorded)

end Scheduler

end CloudCollector
