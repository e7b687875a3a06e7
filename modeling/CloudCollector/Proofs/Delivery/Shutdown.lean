import CloudCollector.Proofs.Config
import CloudCollector.Proofs.Delivery.Loops
import CloudCollector.Proofs.Pipeline.Stores

/-!
# A stop loses nothing

When an agent has stopped, everything that was submitted to be written or sent has been through a
cycle: it was handed over, or given up in a cycle that failed. Requests end before the loops are
told to, and every loop that flushes begins its last cycle after that, so nothing is submitted
behind its back. This holds however ticks, requests, answers and the stop come between each other.
-/

namespace CloudCollector

/-! ## What was handed over -/

namespace Transcript

/-- What a cycle began with and did not hand over. -/
def unsent (t : Transcript) : List Delivery :=
  t.offered.drop t.calls.length

/-- What was handed over and what was not make up what a cycle began with. -/
theorem InOrder.calls_append_unsent {t : Transcript} (h : t.InOrder) :
    t.calls ++ t.unsent = t.offered :=
  List.prefix_iff_eq_append.mp h.2

end Transcript

/-- A cycle in a row that did not fail handed over everything, and everything was accepted. -/
theorem EndsInRow.unsent_eq_nil {task : Task} {t : Transcript} {result : Except String Nat}
    (h : EndsInRow task t result) (hresult : (⟨t, result⟩ : EndedCycle).failure? = none) :
    t.unsent = [] ∧ t.accepted = t.calls := by
  cases h with
  | delivered hhanded haccepted =>
    have hcalls : t.calls = t.offered := by rw [Transcript.calls, hhanded, Transcript.map_fst_ok]
    exact ⟨by rw [Transcript.unsent, hcalls, List.drop_length], haccepted.trans hcalls.symm⟩
  | failed => cases hresult

/-! ## One cycle at a time -/

/-- The beginning or the end of a cycle. -/
inductive CycleEdge where
  | begins
  | ends
  deriving DecidableEq

/-- What a move begins or ends for a task. -/
def Move.edge? (task : Task) : Move → Option CycleEdge
  | .tick _ other => if other = task then some .begins else none
  | .leave _ other => if other = task ∧ task.flushesOnStop = true then some .begins else none
  | .finish other => if other = task then some .ends else none
  | _ => none

/-- A number of cycles, each of which ends before the next begins. -/
def oneByOne : Nat → List CycleEdge
  | 0 => []
  | n + 1 => oneByOne n ++ [.begins, .ends]

/-- The beginnings and ends of the cycles that a task has been through, one after the other. -/
def Dispatch.edges (w : Dispatch) (task : Task) : List CycleEdge :=
  oneByOne (w.ended.get task).length ++
    if (w.going.get task).isSome then [.begins] else []

namespace Dispatch

variable {w : Dispatch} {task : Task}

/-- An answer neither begins nor ends a cycle. -/
theorem edges_perform_answer (other : Task) (outcome : Outcome) :
    (w.perform (.answer other outcome)).edges task = w.edges task := by
  have hended : (w.perform (.answer other outcome)).ended = w.ended := by
    rw [perform]
    split <;> rfl
  rw [edges, edges, hended, isSome_going_answer]

/-- A start begins a cycle of its own task. -/
theorem edges_perform_start {other : Task} (hidle : w.going.get other = none) (now : Instant) :
    (w.perform (.start now other)).edges task =
      w.edges task ++ if other = task then [.begins] else [] := by
  have hended : (w.perform (.start now other)).ended = w.ended := by rw [perform_start hidle]; rfl
  rw [edges, edges, hended, isSome_going_start hidle]
  by_cases htask : other = task
  · simp [htask ▸ hidle, htask]
  · simp [htask, Ne.symm htask]

/-- A finish ends the cycle of its own task. -/
theorem edges_perform_finish {other : Task} {o : OpenCycle} (hgoing : w.going.get other = some o)
    (hpending : o.cycle.pending = []) :
    (w.perform (.finish other)).edges task =
      w.edges task ++ if other = task then [.ends] else [] := by
  rw [edges, edges, going_finish hgoing hpending, perform_finish hgoing hpending, close,
    PerTask.get_set]
  by_cases htask : other = task
  · simp [htask ▸ hgoing, htask, oneByOne]
  · simp [htask, Ne.symm htask]

end Dispatch

namespace Running

variable {w w' : Running} {move : Move} {task : Task}

/-- A move adds the edge that it makes to those of its task. -/
theorem Orderly.edges_step (h : w.Orderly) (hstep : w.Steps move w') :
    w'.dispatch.edges task = w.dispatch.edges task ++ (move.edge? task).toList := by
  cases hstep with
  | @tick now other hwaiting =>
    have hidle : w.dispatch.going.get other = none := h.idle_of_ne (by simp [hwaiting])
    refine (Dispatch.edges_perform_start hidle now).trans ?_
    rw [Move.edge?]
    split <;> rfl
  | @lastCycle now other hwaiting hcancelled hflushes =>
    have hidle : w.dispatch.going.get other = none := h.idle_of_ne (by simp [hwaiting])
    refine (Dispatch.edges_perform_start hidle now).trans ?_
    rw [Move.edge?]
    by_cases htask : other = task
    · rw [if_pos htask, if_pos ⟨htask, htask ▸ hflushes⟩]
      rfl
    · rw [if_neg htask, if_neg fun h => htask h.1]
      rfl
  | @leave now other hwaiting hcancelled hflushes =>
    have hleaves : ¬(other = task ∧ task.flushesOnStop = true) := by
      rintro ⟨rfl, hstays⟩
      rw [hflushes] at hstays
      cases hstays
    rw [Move.edge?, if_neg hleaves, Option.toList_none, List.append_nil]
    rfl
  | answer =>
    exact (Dispatch.edges_perform_answer _ _).trans (List.append_nil _).symm
  | @finish other last o hrunning hgoing hpending =>
    refine (Dispatch.edges_perform_finish hgoing hpending).trans ?_
    rw [Move.edge?]
    split <;> rfl
  | _ => exact (List.append_nil _).symm

/-! ## What a run tells -/

/-- The run has told the loops to end, and the loop of a task has then begun its last cycle. -/
def BeginsLast (task : Task) (moves : List Move) : Prop :=
  ∃ before between now after, moves = before ++ .cancel :: between ++ .leave now task :: after

/-- The run has told the loops to end, and the loop of a task has then run its last cycle. -/
def RunsLast (task : Task) (moves : List Move) : Prop :=
  ∃ before between now after,
    moves = before ++ .cancel :: between ++ .leave now task :: after ∧ .finish task ∈ after

/-- A last cycle that has begun has begun, whatever comes next. -/
theorem BeginsLast.concat {moves : List Move} (h : BeginsLast task moves) (move : Move) :
    BeginsLast task (moves ++ [move]) := by
  obtain ⟨before, between, now, after, rfl⟩ := h
  exact ⟨before, between, now, after ++ [move], by simp⟩

/-- A last cycle that was run was run, whatever comes next. -/
theorem RunsLast.concat {moves : List Move} (h : RunsLast task moves) (move : Move) :
    RunsLast task (moves ++ [move]) := by
  obtain ⟨before, between, now, after, rfl, hfinish⟩ := h
  exact ⟨before, between, now, after ++ [move], by simp, List.mem_append_left _ hfinish⟩

/-- A last cycle that has begun and is finished was run. -/
theorem BeginsLast.finish {moves : List Move} (h : BeginsLast task moves) :
    RunsLast task (moves ++ [.finish task]) := by
  obtain ⟨before, between, now, after, rfl⟩ := h
  exact ⟨before, between, now, after ++ [.finish task], by simp, by simp⟩

/-- What a run tells of the loop of a task that has come to some stage. -/
def TellsLoop (task : Task) (moves : List Move) : LoopStage → Prop
  | .running true => BeginsLast task moves
  | .ended => RunsLast task moves
  | _ => True

/-- What the moves tell of a loop that stays where it is, they tell with one move more. -/
theorem TellsLoop.concat {moves : List Move} {stage : LoopStage} (h : TellsLoop task moves stage)
    (move : Move) : TellsLoop task (moves ++ [move]) stage := by
  cases stage with
  | running last =>
    cases last
    · trivial
    · exact BeginsLast.concat h move
  | ended => exact RunsLast.concat h move
  | _ => trivial

/-- What the moves of a run tell of the agent after it. -/
structure Tells (moves : List Move) (w : Running) : Prop where
  edges : ∀ task, w.dispatch.edges task = moves.filterMap (·.edge? task)
  cancelled : w.stage = .cancelled ∨ w.stage = .stopped → .cancel ∈ moves
  loops : ∀ task, task.flushesOnStop = true → TellsLoop task moves (w.loops.get task)

namespace Tells

variable {moves : List Move}

/-- What a run tells of a loop after it has come to another stage. -/
theorem loops_enter (h : Tells moves w) {stage : LoopStage}
    (hstage : task.flushesOnStop = true → TellsLoop task (moves ++ [move]) stage) (other : Task)
    (hother : other.flushesOnStop = true) :
    TellsLoop other (moves ++ [move]) ((w.enter task stage).loops.get other) := by
  rw [Running.enter, PerTask.get_set]
  split
  · next heq =>
    subst heq
    exact hstage hother
  · exact (h.loops other hother).concat move

/-- A run tells of a last cycle when it begins. -/
theorem beginsLast (h : Tells moves w) (hcancelled : w.stage = .cancelled) (now : Instant) :
    BeginsLast task (moves ++ [.leave now task]) := by
  obtain ⟨before, between, rfl⟩ := List.append_of_mem (h.cancelled (.inl hcancelled))
  exact ⟨before, between, now, [], rfl⟩

/-- What a run tells stays true with every further move. -/
theorem step (h : Tells moves w) (hw : w.Orderly) (hstep : w.Steps move w') :
    Tells (moves ++ [move]) w' := by
  have hedges (task : Task) :
      w'.dispatch.edges task = (moves ++ [move]).filterMap (·.edge? task) := by
    rw [hw.edges_step hstep, h.edges, List.filterMap_append]
    cases hedge : move.edge? task <;> simp [hedge]
  have hloops : ∀ task, task.flushesOnStop = true →
      TellsLoop task (moves ++ [move]) (w.loops.get task) :=
    fun task hflushes => (h.loops task hflushes).concat move
  have hcancelled : w.stage = .cancelled ∨ w.stage = .stopped → .cancel ∈ moves ++ [move] :=
    fun hstage => List.mem_append_left _ (h.cancelled hstage)
  cases hstep with
  | firstTick => exact ⟨hedges, hcancelled, h.loops_enter fun _ => trivial⟩
  | tick => exact ⟨hedges, hcancelled, h.loops_enter fun _ => trivial⟩
  | lastCycle _ hstage =>
    exact ⟨hedges, hcancelled, h.loops_enter fun _ => h.beginsLast hstage _⟩
  | leave _ _ hflushes =>
    refine ⟨hedges, hcancelled, h.loops_enter fun hstays => ?_⟩
    rw [hflushes] at hstays
    cases hstays
  | @finish task last o hrunning =>
    refine ⟨hedges, hcancelled, h.loops_enter fun hflushes => ?_⟩
    have htold := h.loops task hflushes
    rw [hrunning] at htold
    cases last
    · trivial
    · exact BeginsLast.finish htold
  | answer => exact ⟨hedges, hcancelled, hloops⟩
  | accept => exact ⟨hedges, hcancelled, hloops⟩
  | serve => exact ⟨hedges, hcancelled, hloops⟩
  | respond => exact ⟨hedges, hcancelled, hloops⟩
  | stop => exact ⟨hedges, by simp, hloops⟩
  | close => exact ⟨hedges, by simp, hloops⟩
  | cancel => exact ⟨hedges, fun _ => by simp, hloops⟩
  | join hstage => exact ⟨hedges, fun _ => hcancelled (.inl hstage), hloops⟩

end Tells

/-- An agent that starts in order keeps so, and its run tells of it. -/
theorem tells_of_run? {agent : Agent}
    (hperiods : ∀ task, (agent.config.intervals.get task).isZero = false) {moves : List Move}
    (hrun : (start agent).run? moves = some w) : w.Orderly ∧ Tells moves w := by
  induction moves using List.reverseRecOn generalizing w with
  | nil =>
    obtain rfl := Option.some.inj hrun
    refine ⟨orderly_start hperiods, fun task => ?_, by simp [start], fun task _ => ?_⟩
    · cases task <;> rfl
    · rw [start, PerTask.get_ofFun, hperiods, if_neg Bool.false_ne_true]
      trivial
  | append_singleton moves last ih =>
    obtain ⟨between, hrun, hlast⟩ := exists_of_run?_concat hrun
    obtain ⟨horderly, htells⟩ := ih hrun
    exact ⟨horderly.step hlast, htells.step horderly hlast⟩

end Running

/-! ## Started agents -/

/-- The configurations of targets do not reach what waits for delivery. -/
theorem Agent.sameDelivery_applyTargets {entries : List (String × TargetConfig)} {p q : Pipeline}
    (h : entries.foldlM applyTarget p = .ok q) : Pipeline.SameDelivery q p := by
  induction entries generalizing p with
  | nil =>
    obtain rfl := Except.ok.inj h
    exact .refl p
  | cons entry entries ih =>
    rw [List.foldlM_cons, bind_eq_ok_iff] at h
    obtain ⟨next, hnext, hrest⟩ := h
    have hpush := p.sameDelivery_applyConfig entry.1 entry.2
    rw [applyTarget] at hnext
    split at hnext
    · next heq =>
      obtain rfl := Except.ok.inj hnext
      rw [heq] at hpush
      exact (ih hrest).trans hpush
    · cases hnext

/-- An agent that was put together from a checked configuration and has started, on whatever
address its machine lets it listen. -/
structure Agent.Started (config : Config) (agent : Agent) : Prop where
  checked : config.validate = .ok ()
  started : ∃ assembled binds, Agent.ofConfig config = .ok assembled ∧
    assembled.startOn binds = .ok agent

namespace Agent.Started

variable {config : Config} {agent : Agent}

/-- What starting an agent makes of a fresh one. -/
theorem exists_foldlM (h : Started config agent) :
    agent.config = config ∧
      config.targets.entries.foldlM applyTarget (.fresh config.settings) = .ok agent.pipeline := by
  obtain ⟨assembled, binds, hassembled, hstart⟩ := h.started
  rw [ofConfig] at hassembled
  split at hassembled
  · obtain rfl := Except.ok.inj hassembled
    obtain ⟨pipeline, hpushes, hlisten⟩ := bind_eq_ok_iff.mp hstart
    split at hlisten
    · obtain rfl := Except.ok.inj hlisten
      exact ⟨rfl, hpushes⟩
    · cases hlisten
  · cases hassembled

/-- Each task of a started agent has a period. -/
theorem isZero_eq (h : Started config agent) (task : Task) :
    (agent.config.intervals.get task).isZero = false := by
  rw [h.exists_foldlM.1]
  exact (Config.validate_eq_ok_iff.mp h.checked).intervals task

/-- A started agent has handed over nothing, and nothing waits. -/
theorem accounts (h : Started config agent) (task : Task) :
    (Running.start agent).dispatch.Accounts task [] :=
  (Dispatch.accounts_fresh config.settings task).of_same
    ((sameDelivery_applyTargets h.exists_foldlM.2).sameFor task) rfl rfl

end Agent.Started

/-! ## Main result -/

namespace Running

variable {config : Config} {agent : Agent} {moves : List Move} {w : Running}

/-- What the moves of a run put last among what waits for a task. -/
def submitted (w : Running) (task : Task) (moves : List Move) : List Delivery :=
  w.dispatch.submitted task (moves.flatMap Move.acts)

/-- What was submitted to a task was handed over once, or given up in a cycle that failed. -/
structure HandsOver (w : Running) (task : Task) (submitted : List Delivery) : Prop where
  /-- Each delivery that was submitted has its place in one cycle, in the order of submission. -/
  split : (w.dispatch.ended.get task).flatMap
    (fun e => e.transcript.calls ++ e.transcript.unsent) = submitted
  /-- Only a cycle that failed gave up anything. -/
  failed : ∀ e ∈ w.dispatch.ended.get task, e.failure? = none →
    e.transcript.unsent = [] ∧ e.transcript.accepted = e.transcript.calls
  /-- Each cycle went as far as the first failure. -/
  ended : ∀ e ∈ w.dispatch.ended.get task, EndsInRow task e.transcript e.result

/-- An agent that has stopped, with nothing lost. -/
structure StopsInOrder (agent : Agent) (moves : List Move) (w : Running) : Prop where
  /-- No metric writes and no events wait. -/
  metrics : w.dispatch.pipeline.metrics = []
  events : w.dispatch.pipeline.events = []
  handsOver : ∀ task, task.endsAtFault = true →
    w.HandsOver task ((start agent).submitted task moves)
  /-- Of the cycles of a task each has ended before the next began. -/
  oneByOne : ∀ task,
    moves.filterMap (·.edge? task) = oneByOne (w.dispatch.ended.get task).length
  /-- After the loops were told to end, each that flushes on a stop has run a last cycle. -/
  runsLast : ∀ task, task.flushesOnStop = true → RunsLast task moves
  /-- Nothing happens any more: no loop begins a cycle, and no request comes in. -/
  rests : ∀ move, w.step? move = none

/-- When an agent has stopped no move can be made. -/
theorem Orderly.step?_of_stopped (h : w.Orderly) (hstopped : w.stage = .stopped) (move : Move) :
    w.step? move = none := by
  have hended := h.ended hstopped
  have hserved : w.requests = 0 := h.served (by rw [hstopped]; rfl)
  cases hstep : w.step? move with
  | none => rfl
  | some w' =>
    have hsteps := steps_of_step? hstep
    cases hsteps <;> simp_all [StopStage.isClosed]

/-- Where nothing waits and no cycle is going, the accounts tell that all that was submitted was
handed over or given up. -/
theorem handsOver_of_accounts {task : Task} {submitted : List Delivery}
    (h : w.dispatch.Accounts task submitted) (hrow : task.endsAtFault = true)
    (hidle : w.dispatch.going.get task = none) (hwaiting : w.dispatch.pipeline.waiting task = []) :
    w.HandsOver task submitted := by
  have hends : ∀ e ∈ w.dispatch.ended.get task, EndsInRow task e.transcript e.result :=
    fun e he => (h.ended e he).inRow hrow
  refine ⟨?_, fun e he => (hends e he).unsent_eq_nil, hends⟩
  have hoffered := h.submitted hrow
  rw [hwaiting, List.append_nil, Dispatch.offered, Dispatch.transcripts, hidle, Option.map_none,
    Option.toList_none, List.append_nil, List.flatMap_map] at hoffered
  rw [← hoffered]
  exact List.flatMap_congr fun e he => (hends e he).inOrder.calls_append_unsent

/-- **A stop loses nothing.** Requests may be served until the server has ended, a loop that is told
to end may take a tick first, and collaborators may answer anything, in any order. Once the agent
has stopped, no metric writes and no events wait; each that was submitted was handed over in one
cycle or given up in a cycle that failed; no two cycles of a task overlapped; every task that
flushes on a stop has run a cycle after its loop was told to end; and nothing begins any more. -/
theorem stops_in_order (hstarted : agent.Started config)
    (hrun : (start agent).run? moves = some w) (hstopped : w.stage = .stopped) :
    StopsInOrder agent moves w := by
  obtain ⟨horderly, htells⟩ := tells_of_run? hstarted.isZero_eq hrun
  have hended := horderly.ended hstopped
  have hidle (task : Task) : w.dispatch.going.get task = none :=
    horderly.idle_of_ne (by simp [hended])
  have hwaiting (task : Task) (hflushes : task.flushesOnStop = true) :
      w.dispatch.pipeline.waiting task = [] :=
    (horderly.last task (by rw [hended]; rfl)).2 hflushes
  have haccounts (task : Task) : w.dispatch.Accounts task ((start agent).submitted task moves) := by
    rw [dispatch_of_run? hrun]
    exact Dispatch.Accounts.after hstarted.accounts _ task
  exact
    { metrics := List.map_eq_nil_iff.mp (hwaiting .metricFlush rfl)
      events := List.map_eq_nil_iff.mp (hwaiting .eventFlush rfl)
      handsOver := fun task hrow => handsOver_of_accounts (haccounts task) hrow (hidle task)
        (hwaiting task (by cases task <;> first | rfl | cases hrow))
      oneByOne := fun task => by
        rw [← htells.edges, Dispatch.edges, hidle, Option.isSome_none, if_neg Bool.false_ne_true,
          List.append_nil]
      runsLast := fun task hflushes => by
        have htold := htells.loops task hflushes
        rwa [hended] at htold
      rests := horderly.step?_of_stopped hstopped }

/-- A configuration without targets, for an address of the network. -/
def localConfig : Config :=
  { address := "10.0.0.5:8242" }

/-- An agent that takes what comes, with the log to deliver to. -/
def localAgent : Agent :=
  { config := localConfig, exporter := .log, pipeline := { settings := localConfig.settings } }

/-- On a machine with the address the agent listens, and it knows no targets. -/
theorem localAgent_started : localAgent.Started localConfig := by
  have hbinds : (Http.bindAddress localConfig.address == "10.0.0.5:8242") = true := by
    decide +kernel
  exact ⟨rfl, localAgent, (· == "10.0.0.5:8242"), rfl, if_pos hbinds⟩

/-- A reading of no value. -/
def voltage (second : Nat) (h : second < 9223372036854775808 := by decide) : MetricWrite :=
  { datapoint := { id := "voltage", name := "voltage", path := "voltage.rrd" },
    value := .notANumber, time := .ofSeconds second h }

/-- A request is served while its agent is asked to stop, and a reading goes out. Of a tick and the
word to end, the loop for readings takes the tick first. -/
def lateMoves : List Move :=
  Task.all.map .firstTick ++
    [.accept, .serve (.appendMetric (voltage 18030)) rfl, .tick (.ofSeconds 18031) .metricFlush,
      .stop, .serve (.appendMetric (voltage 18032)) rfl, .respond, .close, .cancel,
      .answer .metricFlush (.error (.refused ["out of order"])), .finish .metricFlush,
      .tick (.ofSeconds 18033) .metricFlush, .answer .metricFlush (.ok ()), .finish .metricFlush,
      .leave (.ofSeconds 18034) .discovery, .leave (.ofSeconds 18034) .metricFlush,
      .leave (.ofSeconds 18034) .eventFlush, .leave (.ofSeconds 18034) .datamapFlush,
      .finish .datamapFlush, .finish .eventFlush, .finish .metricFlush, .join]

/-- The reading that came last is accepted in a cycle that began with a tick, and the last cycle has
nothing to do. -/
theorem localAgent_stops :
    localAgent.Started localConfig ∧ ∃ w, (start localAgent).run? lateMoves = some w ∧
      w.stage = .stopped ∧ StopsInOrder localAgent lateMoves w ∧
      w.dispatch.accepted .metricFlush = [.metric (voltage 18032)] := by
  have hstopped : ((start localAgent).run? lateMoves).map (·.stage) = some .stopped := by
    decide +kernel
  obtain ⟨w, hrun, hstage⟩ := Option.map_eq_some_iff.mp hstopped
  have haccepted : ((start localAgent).run? lateMoves).map (·.dispatch.accepted .metricFlush) =
      some [.metric (voltage 18032)] := by decide +kernel
  rw [hrun] at haccepted
  exact ⟨localAgent_started, w, hrun, hstage,
    stops_in_order localAgent_started hrun hstage, Option.some.inj haccepted⟩
end Running

end CloudCollector
