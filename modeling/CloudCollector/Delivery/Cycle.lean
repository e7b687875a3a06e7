import CloudCollector.Delivery.Basic

/-!
# Cycles

In a cycle, a task takes what waits at its start and delivers it. Metric writes and events go out
in their order, and the first failure drops the rest; batches stand each for itself. A cycle is a
value between two deliveries, so that it can be carried on when the answer of a collaborator
arrives.
-/

namespace CloudCollector

/-- A cycle of a task. -/
structure Cycle where
  task : Task
  /-- How many deliveries it began with. -/
  total : Nat := 0
  /-- The deliveries to come; the first is the one that waits for an answer. -/
  pending : List Delivery := []
  /-- The number of items that were handled. -/
  handled : Nat := 0
  /-- The deliveries that failed, in their order. -/
  failures : List (Delivery × DeliveryFault) := []
  deriving DecidableEq

/-- Whether the first failure of a task ends its cycle. -/
def Task.endsAtFault : Task → Bool
  | .metricFlush | .eventFlush => true
  | .datamapFlush | .discovery => false

namespace Cycle

/-- A cycle with the given deliveries. -/
def ofDeliveries (task : Task) (deliveries : List Delivery) : Cycle :=
  { task, total := deliveries.length, pending := deliveries }

/-- The delivery that waits for an answer. -/
def current? (c : Cycle) : Option Delivery :=
  c.pending.head?

/-- The cycle after an answer to its current delivery. -/
def settle (c : Cycle) (outcome : Outcome) : Cycle :=
  match c.pending with
  | [] => c
  | d :: rest =>
    match outcome with
    | .ok () => { c with pending := rest, handled := c.handled + d.items }
    | .error fault =>
      { c with
        pending := if c.task.endsAtFault then [] else rest
        failures := c.failures ++ [(d, fault)] }

/-- How the failure of deliveries in a row is told. -/
def tellDropped (c : Cycle) (what : String) (fault : DeliveryFault) : String :=
  what ++ " failed, dropped " ++ toString (c.total - c.handled) ++ " of " ++ toString c.total ++
    ": " ++ fault.message

/-- How the failure of batches is told. -/
def tellFailed (c : Cycle) : String :=
  toString c.failures.length ++ " of " ++ toString c.total ++ " model batches failed: " ++
    ", ".intercalate (c.failures.filterMap fun failure => failure.1.target?)

/-- The result of a cycle without deliveries to come: the number of handled items, or the
failure. -/
def result (c : Cycle) : Except String Nat :=
  match c.failures with
  | [] => .ok c.handled
  | (_, fault) :: _ =>
    match c.task with
    | .metricFlush => .error (c.tellDropped "metric write" fault)
    | .eventFlush => .error (c.tellDropped "event send" fault)
    | .datamapFlush | .discovery => .error c.tellFailed

/-- An answer leaves fewer deliveries to come. -/
theorem length_pending_settle_lt {c : Cycle} {d : Delivery} {rest : List Delivery}
    (h : c.pending = d :: rest) (outcome : Outcome) :
    (c.settle outcome).pending.length < c.pending.length := by
  unfold settle
  rw [h]
  cases outcome with
  | ok => simp
  | error => cases c.task.endsAtFault <;> simp

end Cycle

namespace Pipeline

/-- Marks how a task fares. -/
def setTask (p : Pipeline) (task : Task) (status : TaskStatus) : Pipeline :=
  { p with tasks := p.tasks.set task status }

/-- Takes what a task is to deliver. -/
def takeFor (p : Pipeline) (now : Instant) : Task → Pipeline × Cycle
  | .metricFlush =>
    let (p, writes) := p.takeMetrics
    (p, .ofDeliveries .metricFlush (writes.map .metric))
  | .eventFlush =>
    let (p, events) := p.takeEvents
    (p, .ofDeliveries .eventFlush (events.map .event))
  | .datamapFlush =>
    let (p, batches) := p.drain now
    (p, .ofDeliveries .datamapFlush (batches.map .model))
  | .discovery =>
    let (p, count) := p.discover now
    (p, { task := .discovery, handled := count })

/-- Begins a cycle of a task. -/
def beginCycle (p : Pipeline) (now : Instant) (task : Task) : Pipeline × Cycle :=
  (p.setTask task (p.tasks.get task).start).takeFor now task

/-- Carries a cycle on with the answer to its current delivery. -/
def settle (p : Pipeline) (c : Cycle) (outcome : Outcome) : Pipeline × Cycle :=
  let health := match c.current?, outcome with
    | some d, .ok () => p.health.countDelivery d
    | _, _ => p.health
  ({ p with health }, c.settle outcome)

/-- Counts a finished cycle. -/
def countCycle (h : Health) (task : Task) (result : Except String Nat) : Health :=
  let h := { h with taskRuns := h.taskRuns.count task.name 1 }
  match result with
  | .ok _ => h
  | .error _ => { h with taskErrors := h.taskErrors.count task.name 1 }

/-- Ends a cycle without deliveries to come. -/
def endCycle (p : Pipeline) (c : Cycle) : Pipeline :=
  { p.setTask c.task ((p.tasks.get c.task).finish c.result) with
    health := countCycle p.health c.task c.result }

variable {σ : Type}

/-- Carries a cycle on to its last delivery, with the answers of a collaborator in state `s`. -/
def deliverAll (answer : σ → Delivery → σ × Outcome) (p : Pipeline) (c : Cycle) (s : σ) :
    Pipeline × Cycle × σ :=
  match h : c.pending with
  | [] => (p, c, s)
  | d :: _ =>
    let (s, outcome) := answer s d
    have := Cycle.length_pending_settle_lt h outcome
    deliverAll answer (p.settle c outcome).1 (c.settle outcome) s
termination_by c.pending.length

/-- Runs a cycle of a task from its beginning to its end. -/
def runCycle (answer : σ → Delivery → σ × Outcome) (p : Pipeline) (now : Instant) (task : Task)
    (s : σ) : Pipeline × σ × Except String Nat :=
  let (p, c) := p.beginCycle now task
  let (p, c, s) := deliverAll answer p c s
  (p.endCycle c, s, c.result)

end Pipeline

end CloudCollector
