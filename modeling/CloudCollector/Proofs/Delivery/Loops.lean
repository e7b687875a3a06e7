import CloudCollector.Agent
import CloudCollector.Proofs.Delivery.Accounting

/-!
# A running agent

A running agent serves requests and has a loop for each task. After a first tick, a loop waits: with
a tick it runs a cycle, and when the loops are told to end it runs a last one, if its task flushes
on a stop, and ends. Of a tick and the word to end that are both there, it may take either; a cycle
that has begun is carried on to its end. To stop, the agent closes its server, which ends with the
last request, then tells the loops to end and waits for them. All of this happens a move at a time,
and between any two moves others may come.
-/

namespace CloudCollector

namespace PerTask

variable {α : Type}

/-- The values of a function of the task. -/
def ofFun (f : Task → α) : PerTask α :=
  ⟨f .metricFlush, f .eventFlush, f .datamapFlush, f .discovery⟩

/-- Each task has what the function gives it. -/
theorem get_ofFun (f : Task → α) (task : Task) : (ofFun f).get task = f task := by
  cases task <;> rfl

end PerTask

namespace Task

/-- No task is listed twice. -/
theorem nodup_all : all.Nodup := by
  decide

end Task

/-- What arrives takes nothing out of the pipeline. -/
theorem Pipeline.Call.takes_of_isArrival {call : Pipeline.Call} (h : call.isArrival = true) :
    call.takes = false := by
  cases call with
  | drain | discover | takeMetrics | takeEvents => cases h
  | _ => rfl

/-- What the loop of a task does. -/
inductive LoopStage where
  /-- It is to take its first tick, with which no cycle begins. -/
  | starting
  /-- It waits for a tick, or to be told to end. -/
  | waiting
  /-- It runs a cycle, of which `last` says whether the loop ends with it. -/
  | running (last : Bool)
  | ended
  deriving DecidableEq

/-- Whether a loop begins no further cycle. -/
def LoopStage.isLast : LoopStage → Bool
  | running last => last
  | ended => true
  | _ => false

/-- How far an agent has come with stopping. -/
inductive StopStage where
  /-- Nobody has asked it to stop. -/
  | serving
  /-- Its server is to end. -/
  | closing
  /-- Its server has ended. -/
  | closed
  /-- The loops are told to end. -/
  | cancelled
  /-- The loops have ended, and the agent has stopped. -/
  | stopped
  deriving DecidableEq

/-- Whether the server has ended. -/
def StopStage.isClosed : StopStage → Bool
  | closed | cancelled | stopped => true
  | _ => false

/-- A running agent. -/
structure Running where
  dispatch : Dispatch
  loops : PerTask LoopStage
  /-- The number of requests that are being served. -/
  requests : Nat := 0
  stage : StopStage := .serving

/-- What a running agent does next. -/
inductive Move where
  /-- A loop takes its first tick. -/
  | firstTick (task : Task)
  /-- A loop takes a tick and begins a cycle. -/
  | tick (now : Instant) (task : Task)
  /-- A loop sees that it is to end, and begins its last cycle if there is one. -/
  | leave (now : Instant) (task : Task)
  /-- A collaborator answers to the current delivery of a task. -/
  | answer (task : Task) (outcome : Outcome)
  /-- A cycle ends. -/
  | finish (task : Task)
  /-- A request comes in. -/
  | accept
  /-- A call that serves a request reaches the pipeline. -/
  | serve (call : Pipeline.Call) (h : call.isArrival = true)
  /-- A request is answered. -/
  | respond
  /-- The agent is asked to stop. -/
  | stop
  /-- The server ends. -/
  | close
  /-- The loops are told to end. -/
  | cancel
  /-- The last loop has ended, and so has the stop. -/
  | join

namespace Running

/-- The agent after a step of its dispatch. -/
def act (w : Running) (a : Act) : Running :=
  { w with dispatch := w.dispatch.perform a }

/-- The agent with the loop of a task elsewhere. -/
def enter (w : Running) (task : Task) (stage : LoopStage) : Running :=
  { w with loops := w.loops.set task stage }

/-- The deliveries to come of the cycle that a loop runs. -/
def pending? (w : Running) (task : Task) : Option (List Delivery) :=
  (w.dispatch.going.get task).map (·.cycle.pending)

/-- The agent after a move, unless it cannot be made. -/
def step? (w : Running) : Move → Option Running
  | .firstTick task =>
    if w.loops.get task = .starting then some (w.enter task .waiting) else none
  | .tick now task =>
    if w.loops.get task = .waiting then
      some ((w.act (.start now task)).enter task (.running false))
    else none
  | .leave now task =>
    if w.loops.get task = .waiting ∧ w.stage = .cancelled then
      if task.flushesOnStop then some ((w.act (.start now task)).enter task (.running true))
      else some (w.enter task .ended)
    else none
  | .answer task outcome =>
    match w.loops.get task, w.pending? task with
    | .running _, some (_ :: _) => some (w.act (.answer task outcome))
    | _, _ => none
  | .finish task =>
    match w.loops.get task, w.pending? task with
    | .running last, some [] =>
      some ((w.act (.finish task)).enter task (if last then .ended else .waiting))
    | _, _ => none
  | .accept => if w.stage.isClosed then none else some { w with requests := w.requests + 1 }
  | .serve call h =>
    if w.requests = 0 then none else some (w.act (.call call (call.takes_of_isArrival h)))
  | .respond => if w.requests = 0 then none else some { w with requests := w.requests - 1 }
  | .stop => if w.stage = .serving then some { w with stage := .closing } else none
  | .close =>
    if w.stage = .closing ∧ w.requests = 0 then some { w with stage := .closed } else none
  | .cancel => if w.stage = .closed then some { w with stage := .cancelled } else none
  | .join =>
    if w.stage = .cancelled ∧ ∀ task ∈ Task.all, w.loops.get task = .ended then
      some { w with stage := .stopped }
    else none

/-- What a move does, case by case. -/
inductive Steps (w : Running) : Move → Running → Prop where
  | firstTick {task : Task} (h : w.loops.get task = .starting) :
    Steps w (.firstTick task) (w.enter task .waiting)
  | tick {now : Instant} {task : Task} (h : w.loops.get task = .waiting) :
    Steps w (.tick now task) ((w.act (.start now task)).enter task (.running false))
  | lastCycle {now : Instant} {task : Task} (h : w.loops.get task = .waiting)
      (hcancelled : w.stage = .cancelled) (hflushes : task.flushesOnStop = true) :
    Steps w (.leave now task) ((w.act (.start now task)).enter task (.running true))
  | leave {now : Instant} {task : Task} (h : w.loops.get task = .waiting)
      (hcancelled : w.stage = .cancelled) (hflushes : task.flushesOnStop = false) :
    Steps w (.leave now task) (w.enter task .ended)
  | answer {task : Task} {outcome : Outcome} {last : Bool}
      (h : w.loops.get task = .running last) :
    Steps w (.answer task outcome) (w.act (.answer task outcome))
  | finish {task : Task} {last : Bool} {o : OpenCycle} (h : w.loops.get task = .running last)
      (hgoing : w.dispatch.going.get task = some o) (hpending : o.cycle.pending = []) :
    Steps w (.finish task)
      ((w.act (.finish task)).enter task (if last then .ended else .waiting))
  | accept (h : w.stage.isClosed = false) :
    Steps w .accept { w with requests := w.requests + 1 }
  | serve {call : Pipeline.Call} (hcall : call.isArrival = true) (h : w.requests ≠ 0) :
    Steps w (.serve call hcall) (w.act (.call call (call.takes_of_isArrival hcall)))
  | respond (h : w.requests ≠ 0) : Steps w .respond { w with requests := w.requests - 1 }
  | stop (h : w.stage = .serving) : Steps w .stop { w with stage := .closing }
  | close (h : w.stage = .closing) (hserved : w.requests = 0) :
    Steps w .close { w with stage := .closed }
  | cancel (h : w.stage = .closed) : Steps w .cancel { w with stage := .cancelled }
  | join (h : w.stage = .cancelled) (hended : ∀ task, w.loops.get task = .ended) :
    Steps w .join { w with stage := .stopped }

/-- A move that can be made is one of the steps. -/
theorem steps_of_step? {w w' : Running} {move : Move} (h : w.step? move = some w') :
    w.Steps move w' := by
  cases move with
  | firstTick task =>
    obtain ⟨hstarting, ⟨⟩⟩ := Option.ite_none_right_eq_some.mp h
    exact .firstTick hstarting
  | tick now task =>
    obtain ⟨hwaiting, ⟨⟩⟩ := Option.ite_none_right_eq_some.mp h
    exact .tick hwaiting
  | leave now task =>
    obtain ⟨⟨hwaiting, hcancelled⟩, hleft⟩ := Option.ite_none_right_eq_some.mp h
    split at hleft
    · next hflushes =>
      obtain rfl := Option.some.inj hleft
      exact .lastCycle hwaiting hcancelled hflushes
    · next hflushes =>
      obtain rfl := Option.some.inj hleft
      exact .leave hwaiting hcancelled (Bool.not_eq_true _ ▸ hflushes)
  | answer task outcome =>
    rw [step?] at h
    split at h
    · next hrunning _ =>
      obtain rfl := Option.some.inj h
      exact .answer hrunning
    · cases h
  | finish task =>
    rw [step?] at h
    split at h
    · next hrunning hnothing =>
      obtain rfl := Option.some.inj h
      obtain ⟨o, hgoing, hpending⟩ := Option.map_eq_some_iff.mp hnothing
      exact .finish hrunning hgoing hpending
    · cases h
  | accept =>
    obtain ⟨hopen, ⟨⟩⟩ := Option.ite_none_left_eq_some.mp h
    exact .accept (Bool.not_eq_true _ ▸ hopen)
  | serve call hcall =>
    obtain ⟨hrequests, ⟨⟩⟩ := Option.ite_none_left_eq_some.mp h
    exact .serve hcall hrequests
  | respond =>
    obtain ⟨hrequests, ⟨⟩⟩ := Option.ite_none_left_eq_some.mp h
    exact .respond hrequests
  | stop =>
    obtain ⟨hserving, ⟨⟩⟩ := Option.ite_none_right_eq_some.mp h
    exact .stop hserving
  | close =>
    obtain ⟨⟨hclosing, hserved⟩, ⟨⟩⟩ := Option.ite_none_right_eq_some.mp h
    exact .close hclosing hserved
  | cancel =>
    obtain ⟨hclosed, ⟨⟩⟩ := Option.ite_none_right_eq_some.mp h
    exact .cancel hclosed
  | join =>
    obtain ⟨⟨hcancelled, hended⟩, ⟨⟩⟩ := Option.ite_none_right_eq_some.mp h
    exact .join hcancelled fun task => hended task task.mem_all

/-- The agent after a run of moves, if each of them can be made. -/
def run? (w : Running) (moves : List Move) : Option Running :=
  moves.foldlM step? w

/-- To make no moves leads nowhere. -/
theorem run?_nil (w : Running) : w.run? [] = some w := rfl

/-- A run makes its first move and then the rest. -/
theorem run?_cons (w : Running) (first : Move) (rest : List Move) :
    w.run? (first :: rest) = (w.step? first).bind fun next => next.run? rest :=
  List.foldlM_cons ..

/-- A run may be made in two parts. -/
theorem run?_append (w : Running) (first second : List Move) :
    w.run? (first ++ second) = (w.run? first).bind fun next => next.run? second :=
  List.foldlM_append ..

/-- A run makes its last move after the others. -/
theorem run?_concat (w : Running) (moves : List Move) (last : Move) :
    w.run? (moves ++ [last]) = (w.run? moves).bind fun next => next.step? last := by
  rw [run?_append]
  congr 1
  funext next
  rw [run?_cons]
  cases next.step? last <;> rfl

/-- The last move of a run, and the agent before it. -/
theorem exists_of_run?_concat {w w' : Running} {moves : List Move} {last : Move}
    (h : w.run? (moves ++ [last]) = some w') :
    ∃ between, w.run? moves = some between ∧ between.Steps last w' := by
  rw [run?_concat, Option.bind_eq_some_iff] at h
  obtain ⟨between, hrun, hlast⟩ := h
  exact ⟨between, hrun, steps_of_step? hlast⟩

end Running

/-! ## Moves as steps of the dispatch -/

/-- What a move does to the dispatch. -/
def Move.acts : Move → List Act
  | .tick now task => [.start now task]
  | .leave now task => if task.flushesOnStop then [.start now task] else []
  | .answer task outcome => [.answer task outcome]
  | .finish task => [.finish task]
  | .serve call h => [.call call (call.takes_of_isArrival h)]
  | _ => []

namespace Running

variable {w w' : Running} {move : Move}

/-- A move does to the deliveries what its acts do. -/
theorem Steps.dispatch_eq (h : w.Steps move w') :
    w'.dispatch = w.dispatch.after move.acts := by
  cases h with
  | lastCycle _ _ hflushes =>
    rw [Move.acts, if_pos hflushes]
    rfl
  | leave _ _ hflushes =>
    rw [Move.acts, if_neg (by simp [hflushes])]
    rfl
  | _ => rfl

/-- A run does to the deliveries what the acts of its moves do. -/
theorem dispatch_of_run? {moves : List Move} (h : w.run? moves = some w') :
    w'.dispatch = w.dispatch.after (moves.flatMap Move.acts) := by
  induction moves using List.reverseRecOn generalizing w' with
  | nil =>
    obtain rfl := Option.some.inj h
    rfl
  | append_singleton moves last ih =>
    obtain ⟨between, hrun, hlast⟩ := exists_of_run?_concat h
    rw [hlast.dispatch_eq, ih hrun, List.flatMap_append, Dispatch.after_append,
      List.flatMap_singleton]

end Running

namespace Dispatch

variable {w : Dispatch} {task : Task}

/-- Only calls put anything last. -/
theorem waiting_perform_eq_nil (h : w.pipeline.waiting task = []) {a : Act}
    (ha : a.isCall = false) : (w.perform a).pipeline.waiting task = [] := by
  have hstep := w.step_perform a
  generalize w.perform a = next at hstep ⊢
  cases hstep with
  | call => cases ha
  | idle => exact h
  | begin now other _ =>
    refine (w.pipeline.waiting_beginCycle other task now).trans ?_
    split
    · rfl
    · exact h
  | settle => exact h
  | close => exact h

/-- A cycle that begins takes all that waits for its task. -/
theorem waiting_perform_start (hidle : w.going.get task = none) (now : Instant) :
    (w.perform (.start now task)).pipeline.waiting task = [] := by
  rw [perform_start hidle]
  exact (w.pipeline.waiting_beginCycle task task now).trans (if_pos rfl)

/-- If a task has no cycle, it has one when it begins one, and nothing changes for the others. -/
theorem isSome_going_start (hidle : w.going.get task = none) (now : Instant) (other : Task) :
    ((w.perform (.start now task)).going.get other).isSome =
      if other = task then true else (w.going.get other).isSome := by
  rw [perform_start hidle, begin, PerTask.get_set]
  split <;> rfl

/-- An answer neither begins nor ends a cycle. -/
theorem isSome_going_answer (outcome : Outcome) (other : Task) :
    ((w.perform (.answer task outcome)).going.get other).isSome = (w.going.get other).isSome := by
  cases hgoing : w.going.get task with
  | none => rw [perform, hgoing]
  | some o =>
    rw [perform_answer hgoing, settle, PerTask.get_set]
    split
    · next hother => rw [hother, hgoing, Option.isSome_some, Option.isSome_some]
    · rfl

/-- A cycle with nothing to come is over when it is finished, and nothing changes for the others. -/
theorem going_finish {o : OpenCycle} (hgoing : w.going.get task = some o)
    (hpending : o.cycle.pending = []) (other : Task) :
    (w.perform (.finish task)).going.get other =
      if other = task then none else w.going.get other := by
  rw [perform_finish hgoing hpending, close, PerTask.get_set]

end Dispatch

/-! ## Order -/

namespace Running

/-- The parts of a running agent keep in step. -/
structure Orderly (w : Running) : Prop where
  /-- A task is in a cycle exactly while its loop runs one. -/
  going : ∀ task,
    (w.dispatch.going.get task).isSome = true ↔ ∃ last, w.loops.get task = .running last
  /-- A server that has ended serves nothing. -/
  served : w.stage.isClosed = true → w.requests = 0
  /-- A loop is on its last cycle only when no request comes any more, and leaves nothing. -/
  last : ∀ task, (w.loops.get task).isLast = true → w.stage.isClosed = true ∧
    (task.flushesOnStop = true → w.dispatch.pipeline.waiting task = [])
  ended : w.stage = .stopped → ∀ task, w.loops.get task = .ended

namespace Orderly

variable {w w' : Running} {task : Task}

/-- A task whose loop runs no cycle has none going. -/
theorem idle_of_ne (h : w.Orderly) (hloop : ∀ last, w.loops.get task ≠ .running last) :
    w.dispatch.going.get task = none := by
  rw [← Option.not_isSome_iff_eq_none, h.going]
  rintro ⟨last, hlast⟩
  exact hloop last hlast

/-- An agent has not stopped while one of its loops has not ended. -/
theorem stage_ne_stopped (h : w.Orderly) (hloop : w.loops.get task ≠ .ended) :
    w.stage ≠ .stopped :=
  fun hstopped => hloop (h.ended hstopped task)

/-- A loop that moves on without a cycle stays in step. -/
theorem enter (h : w.Orderly) {stage : LoopStage}
    (hfrom : w.loops.get task = .starting ∨ w.loops.get task = .waiting)
    (hto : ∀ last, stage ≠ .running last)
    (hlast : stage.isLast = true → w.stage.isClosed = true ∧ task.flushesOnStop = false) :
    (w.enter task stage).Orderly := by
  have hidle : w.dispatch.going.get task = none :=
    h.idle_of_ne (by rcases hfrom with hfrom | hfrom <;> simp [hfrom])
  have hgoes : w.loops.get task ≠ .ended := by rcases hfrom with hfrom | hfrom <;> simp [hfrom]
  constructor
  · intro other
    rw [Running.enter, PerTask.get_set]
    split
    · next heq => simp [heq, hidle, hto]
    · exact h.going other
  · exact h.served
  · intro other hother
    rw [Running.enter, PerTask.get_set] at hother
    split at hother
    · next heq =>
      obtain ⟨hclosed, hleaves⟩ := hlast hother
      exact ⟨hclosed, fun hflushes => by rw [heq, hleaves] at hflushes; cases hflushes⟩
    · exact h.last other hother
  · exact fun hstopped => absurd hstopped (h.stage_ne_stopped hgoes)

/-- A loop that begins a cycle stays in step. -/
theorem begin (h : w.Orderly) (hwaiting : w.loops.get task = .waiting) (now : Instant)
    {last : Bool} (hlast : last = true → w.stage.isClosed = true) :
    ((w.act (.start now task)).enter task (.running last)).Orderly := by
  have hidle : w.dispatch.going.get task = none := h.idle_of_ne (by simp [hwaiting])
  have hgoes : w.loops.get task ≠ .ended := by simp [hwaiting]
  constructor
  · intro other
    have hgoing := Dispatch.isSome_going_start hidle now other
    rw [Running.enter, act, PerTask.get_set, hgoing]
    split
    · simp
    · exact h.going other
  · exact h.served
  · intro other hother
    rw [Running.enter, PerTask.get_set] at hother
    split at hother
    · next heq =>
      rw [heq]
      exact ⟨hlast hother, fun _ => Dispatch.waiting_perform_start hidle now⟩
    · obtain ⟨hclosed, hnothing⟩ := h.last other hother
      exact ⟨hclosed, fun hflushes => Dispatch.waiting_perform_eq_nil (hnothing hflushes) rfl⟩
  · exact fun hstopped => absurd hstopped (h.stage_ne_stopped hgoes)

/-- A loop that ends a cycle stays in step. -/
theorem finish (h : w.Orderly) {last : Bool} (hrunning : w.loops.get task = .running last)
    {o : OpenCycle} (hgoing : w.dispatch.going.get task = some o)
    (hpending : o.cycle.pending = []) :
    ((w.act (.finish task)).enter task (if last then .ended else .waiting)).Orderly := by
  have hgoes : w.loops.get task ≠ .ended := by simp [hrunning]
  constructor
  · intro other
    have hdone := Dispatch.going_finish hgoing hpending other
    rw [Running.enter, act, PerTask.get_set, hdone]
    split
    · cases last <;> simp
    · exact h.going other
  · exact h.served
  · intro other hother
    have hlast : (w.loops.get other).isLast = true := by
      rw [Running.enter, PerTask.get_set] at hother
      split at hother
      · next heq =>
        rw [heq, hrunning]
        cases last
        · exact hother
        · rfl
      · exact hother
    obtain ⟨hclosed, hnothing⟩ := h.last other hlast
    exact ⟨hclosed, fun hflushes => Dispatch.waiting_perform_eq_nil (hnothing hflushes) rfl⟩
  · exact fun hstopped => absurd hstopped (h.stage_ne_stopped hgoes)

/-- Every move keeps the parts in step. -/
theorem step (h : w.Orderly) {move : Move} (hstep : w.Steps move w') : w'.Orderly := by
  cases hstep with
  | firstTick hstarting => exact h.enter (.inl hstarting) (by simp) (by simp [LoopStage.isLast])
  | tick hwaiting => exact h.begin hwaiting _ (by simp)
  | lastCycle hwaiting hcancelled => exact h.begin hwaiting _ fun _ => by rw [hcancelled]; rfl
  | leave hwaiting hcancelled hflushes =>
    exact h.enter (.inr hwaiting) (by simp) fun _ => ⟨by rw [hcancelled]; rfl, hflushes⟩
  | answer hrunning =>
    refine ⟨fun other => ?_, h.served, fun other hother => ?_, h.ended⟩
    · rw [act, Dispatch.isSome_going_answer]
      exact h.going other
    · obtain ⟨hclosed, hnothing⟩ := h.last other hother
      exact ⟨hclosed, fun hflushes => Dispatch.waiting_perform_eq_nil (hnothing hflushes) rfl⟩
  | finish hrunning hgoing hpending => exact h.finish hrunning hgoing hpending
  | accept hopen =>
    refine ⟨h.going, fun hclosed => ?_, h.last, h.ended⟩
    rw [hopen] at hclosed
    cases hclosed
  | serve hcall hrequests =>
    have hopen : ¬w.stage.isClosed = true := fun hclosed => hrequests (h.served hclosed)
    exact ⟨h.going, h.served, fun other hother => absurd (h.last other hother).1 hopen, h.ended⟩
  | respond hrequests =>
    have hopen : ¬w.stage.isClosed = true := fun hclosed => hrequests (h.served hclosed)
    exact ⟨h.going, fun hclosed => absurd hclosed hopen, h.last, h.ended⟩
  | stop hserving =>
    have hopen : ¬w.stage.isClosed = true := by rw [hserving]; decide
    exact ⟨h.going, nofun, fun other hother => absurd (h.last other hother).1 hopen, nofun⟩
  | close hclosing hserved =>
    have hopen : ¬w.stage.isClosed = true := by rw [hclosing]; decide
    exact ⟨h.going, fun _ => hserved, fun other hother => absurd (h.last other hother).1 hopen,
      nofun⟩
  | cancel hclosed =>
    exact ⟨h.going, fun _ => h.served (by rw [hclosed]; rfl),
      fun other hother => ⟨rfl, (h.last other hother).2⟩, nofun⟩
  | join hcancelled hended =>
    exact ⟨h.going, fun _ => h.served (by rw [hcancelled]; rfl),
      fun other hother => ⟨rfl, (h.last other hother).2⟩, fun _ => hended⟩

end Orderly

/-- A started agent, of which no loop has taken its first tick. A loop without a period never
runs. -/
def start (agent : Agent) : Running :=
  { dispatch := { pipeline := agent.pipeline }
    loops := .ofFun fun task =>
      if (agent.config.intervals.get task).isZero then .ended else .starting }

/-- An agent starts in order if each of its tasks has a period. -/
theorem orderly_start {agent : Agent}
    (hperiods : ∀ task, (agent.config.intervals.get task).isZero = false) :
    (start agent).Orderly := by
  have hstarting (task : Task) : (start agent).loops.get task = .starting := by
    rw [start, PerTask.get_ofFun, hperiods, if_neg Bool.false_ne_true]
  refine ⟨fun task => ?_, nofun, fun task hlast => ?_, nofun⟩
  · rw [hstarting]
    cases task <;> exact ⟨nofun, nofun⟩
  · rw [hstarting] at hlast
    cases hlast

/-- Order is kept by runs. -/
theorem orderly_of_run? {w w' : Running} (h : w.Orderly) {moves : List Move}
    (hrun : w.run? moves = some w') : w'.Orderly := by
  induction moves using List.reverseRecOn generalizing w' with
  | nil =>
    obtain rfl := Option.some.inj hrun
    exact h
  | append_singleton moves last ih =>
    obtain ⟨between, hrun, hlast⟩ := exists_of_run?_concat hrun
    exact (ih hrun).step hlast

/-! ## Moves that can be made -/

/-- An agent gets to another by moves. -/
def Leads (w w' : Running) : Prop :=
  ∃ moves, w.run? moves = some w'

namespace Leads

variable {w w' w'' : Running}

/-- To make no moves leads to where one is. -/
theorem refl (w : Running) : w.Leads w :=
  ⟨[], rfl⟩

/-- Runs may follow each other. -/
theorem trans (h : w.Leads w') (h' : w'.Leads w'') : w.Leads w'' := by
  obtain ⟨first, hfirst⟩ := h
  obtain ⟨second, hsecond⟩ := h'
  exact ⟨first ++ second, by rw [run?_append, hfirst, Option.bind_some, hsecond]⟩

/-- A single move is a run. -/
theorem of_step? {move : Move} (h : w.step? move = some w') : w.Leads w' :=
  ⟨[move], by rw [run?_cons, h, Option.bind_some, run?_nil]⟩

/-- What is led to is in order. -/
theorem orderly (h : w.Leads w') (hw : w.Orderly) : w'.Orderly := by
  obtain ⟨moves, hrun⟩ := h
  exact orderly_of_run? hw hrun

end Leads

section Leads

variable {w : Running} {task : Task}

/-- All loops may take their first tick. -/
theorem leads_firstTicks (w : Running) (hstarting : ∀ task, w.loops.get task = .starting) :
    w.Leads { w with loops := .const .waiting } := by
  obtain ⟨dispatch, loops, requests, stage⟩ := w
  obtain rfl : loops = .const .starting := by
    obtain ⟨a, b, c, d⟩ := loops
    rw [PerTask.const, PerTask.mk.injEq]
    exact ⟨hstarting .metricFlush, hstarting .eventFlush, hstarting .datamapFlush,
      hstarting .discovery⟩
  exact ⟨Task.all.map .firstTick, rfl⟩

/-- A loop that waits may take a tick. -/
theorem leads_tick (h : w.Orderly) (hwaiting : w.loops.get task = .waiting)
    (now : Instant) :
    w.Leads { w with
      dispatch := w.dispatch.begin now task, loops := w.loops.set task (.running false) } := by
  have hidle : w.dispatch.going.get task = none := h.idle_of_ne (by simp [hwaiting])
  refine @Leads.of_step? _ _ (.tick now task) ?_
  rw [step?, if_pos hwaiting, act, Dispatch.perform_start hidle, enter]

/-- A loop that waits may begin its last cycle when it is told to end. -/
theorem leads_last (h : w.Orderly) (hwaiting : w.loops.get task = .waiting)
    (hcancelled : w.stage = .cancelled) (hflushes : task.flushesOnStop = true) (now : Instant) :
    w.Leads { w with
      dispatch := w.dispatch.begin now task, loops := w.loops.set task (.running true) } := by
  have hidle : w.dispatch.going.get task = none := h.idle_of_ne (by simp [hwaiting])
  refine @Leads.of_step? _ _ (.leave now task) ?_
  rw [step?, if_pos ⟨hwaiting, hcancelled⟩, if_pos hflushes, act, Dispatch.perform_start hidle,
    enter]

/-- A loop that waits may end when it is told to, if its task has nothing to do then. -/
theorem leads_ended (hwaiting : w.loops.get task = .waiting) (hcancelled : w.stage = .cancelled)
    (hleaves : task.flushesOnStop = false) : w.Leads (w.enter task .ended) := by
  refine @Leads.of_step? _ _ (.leave .epoch task) ?_
  rw [step?, if_pos ⟨hwaiting, hcancelled⟩, if_neg (by rw [hleaves]; exact Bool.false_ne_true)]

variable {last : Bool} {o : OpenCycle}

/-- To a delivery that is to come there may be any answer. -/
theorem leads_answer (hrunning : w.loops.get task = .running last)
    (hgoing : w.dispatch.going.get task = some o) (hpending : o.cycle.pending ≠ [])
    (outcome : Outcome) : w.Leads { w with dispatch := w.dispatch.settle task o outcome } := by
  obtain ⟨d, rest, hcons⟩ := List.exists_cons_of_ne_nil hpending
  refine @Leads.of_step? _ _ (.answer task outcome) ?_
  rw [step?, hrunning, pending?, hgoing, Option.map_some, hcons]
  simp only [act, Dispatch.perform_answer hgoing]

/-- A cycle without deliveries to come may end. -/
theorem leads_finish (hrunning : w.loops.get task = .running last)
    (hgoing : w.dispatch.going.get task = some o) (hpending : o.cycle.pending = []) :
    w.Leads { w with
      dispatch := w.dispatch.close task o
      loops := w.loops.set task (if last then .ended else .waiting) } := by
  refine @Leads.of_step? _ _ (.finish task) ?_
  rw [step?, hrunning, pending?, hgoing, Option.map_some, hpending]
  simp only [act, Dispatch.perform_finish hgoing hpending, enter]

end Leads

end Running

end CloudCollector
