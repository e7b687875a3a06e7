import CloudCollector.Proofs.Delivery.Cycle
import CloudCollector.Proofs.Pipeline.Reachable
import CloudCollector.Proofs.Pipeline.Waiting

/-!
# Cycles among calls

The cycles of the tasks go on side by side, each a step at a time: it begins, it gets the answers to
its deliveries, and it ends. Between any two steps a call may reach the pipeline. A dispatch is a
pipeline with the cycles of its tasks and their transcripts. A task is in one cycle at a time, and
only cycles take away what waits.
-/

namespace CloudCollector

namespace PerTask

variable {α : Type}

/-- A task has what it was given last. -/
theorem get_set_self (p : PerTask α) (task : Task) (a : α) : (p.set task a).get task = a :=
  (p.get_set ..).trans (if_pos rfl)

/-- What one task is given is nothing to another. -/
theorem get_set_of_ne (p : PerTask α) {task other : Task} (h : other ≠ task) (a : α) :
    (p.set task a).get other = p.get other :=
  (p.get_set ..).trans (if_neg h)

/-- To give a task what it has changes nothing. -/
theorem set_get (p : PerTask α) (task : Task) : p.set task (p.get task) = p := by
  cases task <;> rfl

/-- Only what a task is given last counts. -/
theorem set_set (p : PerTask α) (task : Task) (a b : α) :
    (p.set task a).set task b = p.set task b := by
  cases task <;> rfl

end PerTask

/-- Whether a call takes away what waits for the tasks. -/
def Pipeline.Call.takes : Pipeline.Call → Bool
  | .takeMetrics | .takeEvents | .drain _ => true
  | _ => false

/-- A cycle that goes on. -/
structure OpenCycle where
  cycle : Cycle
  transcript : Transcript

/-- A cycle that ended. -/
structure EndedCycle where
  transcript : Transcript
  result : Except String Nat

/-- A pipeline with the cycles of its tasks. -/
structure Dispatch where
  pipeline : Pipeline
  /-- The cycle that each task is in. -/
  going : PerTask (Option OpenCycle) := .const none
  /-- The cycles that each task ended, in their order. -/
  ended : PerTask (List EndedCycle) := .const []

/-- A step of a dispatch. -/
inductive Act where
  /-- A call that takes away nothing reaches the pipeline. -/
  | call (call : Pipeline.Call) (h : call.takes = false)
  /-- A task begins a cycle. -/
  | start (now : Instant) (task : Task)
  /-- The collaborator of a task answers to the current delivery. -/
  | answer (task : Task) (outcome : Outcome)
  /-- A task ends its cycle. -/
  | finish (task : Task)

/-- Whether a step is a call. -/
def Act.isCall : Act → Bool
  | call _ _ => true
  | _ => false

/-- The cycle after an answer. -/
def OpenCycle.settle (o : OpenCycle) (outcome : Outcome) : OpenCycle :=
  ⟨o.cycle.settle outcome, o.transcript.settle o.cycle outcome⟩

namespace Dispatch

/-- A dispatch that has seen nothing. -/
def fresh (settings : Settings) : Dispatch :=
  { pipeline := .fresh settings }

/-- A task begins a cycle. -/
def begin (w : Dispatch) (now : Instant) (task : Task) : Dispatch :=
  { w with
    pipeline := (w.pipeline.beginCycle now task).1
    going := w.going.set task (some
      ⟨(w.pipeline.beginCycle now task).2, { offered := w.pipeline.offers now task }⟩) }

/-- The cycle that a task is in gets an answer. -/
def settle (w : Dispatch) (task : Task) (o : OpenCycle) (outcome : Outcome) : Dispatch :=
  { w with
    pipeline := (w.pipeline.settle o.cycle outcome).1
    going := w.going.set task (some (o.settle outcome)) }

/-- The cycle that a task is in ends. -/
def close (w : Dispatch) (task : Task) (o : OpenCycle) : Dispatch :=
  { pipeline := w.pipeline.endCycle o.cycle
    going := w.going.set task none
    ended := w.ended.set task (w.ended.get task ++ [⟨o.transcript, o.cycle.result⟩]) }

/-- The dispatch after a step. A step that is not to be made yet changes nothing. -/
def perform (w : Dispatch) : Act → Dispatch
  | .call call _ => { w with pipeline := w.pipeline.perform call }
  | .start now task =>
    match w.going.get task with
    | none => w.begin now task
    | some _ => w
  | .answer task outcome =>
    match w.going.get task with
    | none => w
    | some o => w.settle task o outcome
  | .finish task =>
    match w.going.get task with
    | none => w
    | some o => if o.cycle.pending = [] then w.close task o else w

/-- The dispatch after a run. -/
def after (w : Dispatch) (acts : List Act) : Dispatch :=
  acts.foldl perform w

/-- No acts change nothing. -/
@[simp]
theorem after_nil (w : Dispatch) : w.after [] = w := rfl

/-- A run makes its first act and then the rest. -/
theorem after_cons (w : Dispatch) (act : Act) (acts : List Act) :
    w.after (act :: acts) = (w.perform act).after acts := rfl

/-- A run may be made in two parts. -/
theorem after_append (w : Dispatch) (first second : List Act) :
    w.after (first ++ second) = (w.after first).after second :=
  List.foldl_append

/-- A run makes its last act after the others. -/
theorem after_concat (w : Dispatch) (acts : List Act) (act : Act) :
    w.after (acts ++ [act]) = (w.after acts).perform act := by
  rw [after_append, after_cons, after_nil]

section Steps

variable {w : Dispatch} {task : Task}

/-- A task without a cycle begins one when it is told to. -/
theorem perform_start (h : w.going.get task = none) (now : Instant) :
    w.perform (.start now task) = w.begin now task := by
  rw [perform, h]

/-- A task in a cycle takes an answer to its current delivery. -/
theorem perform_answer {o : OpenCycle} (h : w.going.get task = some o) (outcome : Outcome) :
    w.perform (.answer task outcome) = w.settle task o outcome := by
  rw [perform, h]

/-- A task whose cycle has nothing to come ends it when it is told to. -/
theorem perform_finish {o : OpenCycle} (h : w.going.get task = some o)
    (hpending : o.cycle.pending = []) : w.perform (.finish task) = w.close task o := by
  rw [perform, h]
  exact if_pos hpending

/-- A step is a call, or changes nothing, or begins, carries on or ends the cycle of a task. -/
inductive Step (w : Dispatch) : Act → Dispatch → Prop where
  | call (call : Pipeline.Call) (h : call.takes = false) :
    Step w (.call call h) { w with pipeline := w.pipeline.perform call }
  | idle (act : Act) (h : act.isCall = false) : Step w act w
  | begin (now : Instant) (task : Task) (h : w.going.get task = none) :
    Step w (.start now task) (w.begin now task)
  | settle (task : Task) (o : OpenCycle) (outcome : Outcome) (h : w.going.get task = some o) :
    Step w (.answer task outcome) (w.settle task o outcome)
  | close (task : Task) (o : OpenCycle) (h : w.going.get task = some o)
      (hpending : o.cycle.pending = []) :
    Step w (.finish task) (w.close task o)

/-- Whatever is to be done, it is one of the steps: an act that is not possible changes nothing. -/
theorem step_perform (w : Dispatch) (act : Act) : w.Step act (w.perform act) := by
  cases act with
  | call call h => exact .call call h
  | start now task =>
    cases hgoing : w.going.get task with
    | none =>
      rw [perform_start hgoing]
      exact .begin now task hgoing
    | some o =>
      rw [perform, hgoing]
      exact .idle _ rfl
  | answer task outcome =>
    cases hgoing : w.going.get task with
    | none =>
      rw [perform, hgoing]
      exact .idle _ rfl
    | some o =>
      rw [perform_answer hgoing]
      exact .settle task o outcome hgoing
  | finish task =>
    cases hgoing : w.going.get task with
    | none =>
      rw [perform, hgoing]
      exact .idle _ rfl
    | some o =>
      by_cases hpending : o.cycle.pending = []
      · rw [perform_finish hgoing hpending]
        exact .close task o hgoing hpending
      · rw [perform, hgoing]
        dsimp only
        rw [if_neg hpending]
        exact .idle _ rfl

end Steps

/-! ## Whole cycles -/

section Whole

variable {σ : Type} (answer : σ → Delivery → σ × Outcome)

/-- Answers carry a cycle on to its last delivery. -/
theorem exists_answers_deliverAll (w : Dispatch) {task : Task} {o : OpenCycle}
    (hgoing : w.going.get task = some o) (s : σ) :
    ∃ (outcomes : List Outcome) (t : Transcript),
      w.after (outcomes.map (.answer task)) =
        { w with
          pipeline := (Pipeline.deliverAll answer w.pipeline o.cycle s).1
          going := w.going.set task (some
            ⟨(Pipeline.deliverAll answer w.pipeline o.cycle s).2.1, t⟩) } := by
  -- every answer leads to another dispatch, so the induction is over all that stand where the
  -- cycle does
  generalize hp : w.pipeline = p, hc : o.cycle = c
  fun_induction Pipeline.deliverAll answer p c s generalizing w o with
  | case1 p c s hpending =>
    subst hp hc
    refine ⟨[], o.transcript, ?_⟩
    rw [List.map_nil, after_nil, ← hgoing, PerTask.set_get]
  | case2 p c s d rest hpending s' outcome hanswer _ ih =>
    subst hp hc
    have hsettled : (w.settle task o outcome).going.get task = some (o.settle outcome) :=
      PerTask.get_set_self ..
    obtain ⟨outcomes, t, hafter⟩ := ih (w.settle task o outcome) hsettled rfl rfl
    refine ⟨outcome :: outcomes, t, ?_⟩
    rw [List.map_cons, after_cons, perform_answer hgoing, hafter]
    simp only [settle, PerTask.set_set]

/-- A whole cycle is a run: it begins, gets its answers, and ends. -/
theorem exists_after_runCycle (w : Dispatch) (now : Instant) {task : Task}
    (hidle : w.going.get task = none) (s : σ) :
    ∃ (outcomes : List Outcome) (t : Transcript),
      w.after (.start now task :: outcomes.map (.answer task) ++ [.finish task]) =
        { w with
          pipeline := (w.pipeline.runCycle answer now task s).1
          ended := w.ended.set task (w.ended.get task ++
            [⟨t, (w.pipeline.runCycle answer now task s).2.2⟩]) } := by
  have hgoing : (w.begin now task).going.get task = some
      ⟨(w.pipeline.beginCycle now task).2, { offered := w.pipeline.offers now task }⟩ :=
    PerTask.get_set_self ..
  obtain ⟨outcomes, t, hafter⟩ := exists_answers_deliverAll answer _ hgoing s
  obtain ⟨-, -, -, hpending, -, -⟩ := Pipeline.exists_deliverAll answer
    (w.pipeline.beginCycle now task).1 s (w.pipeline.follows_beginCycle now task)
  refine ⟨outcomes, t, ?_⟩
  rw [List.cons_append, after_cons, perform_start hidle, after_append, hafter, after_cons,
    after_nil, perform_finish (PerTask.get_set_self ..) hpending]
  simp only [close, begin, PerTask.set_set, ← hidle, PerTask.set_get]
  rfl

end Whole

end Dispatch

end CloudCollector
