import CloudCollector.Proofs.Delivery.Loops
import CloudCollector.Proofs.Pipeline.Stores

/-!
# Requests and stops that nothing interrupts

A request that nothing comes between is served by a run of moves as it is served at once. And where
no request is being served and every loop waits, a stop that nothing comes between is a run of
moves: the loops are told to end, and one task after the other runs its last cycle.
-/

namespace CloudCollector

namespace Running

/-! ## Requests -/

/-- The agent with another pipeline. -/
def withPipeline (w : Running) (p : Pipeline) : Running :=
  { w with dispatch := { w.dispatch with pipeline := p } }

/-- The calls of a request reach the pipeline one after the other. -/
theorem leads_arrives {w : Running} (hrequests : w.requests ≠ 0) {q : Pipeline}
    (h : w.dispatch.pipeline.Arrives q) : w.Leads (w.withPipeline q) := by
  obtain ⟨calls, hcalls, rfl⟩ := h
  induction calls generalizing w with
  | nil => exact .refl w
  | cons call calls ih =>
    have hserve : w.step? (.serve call (hcalls call List.mem_cons_self)) =
        some (w.withPipeline (w.dispatch.pipeline.perform call)) := if_neg hrequests
    exact (Leads.of_step? hserve).trans
      (@ih (w.withPipeline (w.dispatch.pipeline.perform call)) hrequests
        fun other hother => hcalls other (List.mem_cons_of_mem call hother))

/-- A request that is being served can be answered. -/
theorem step?_respond (w : Running) (h : w.requests ≠ 0) :
    w.step? .respond = some { w with requests := w.requests - 1 } :=
  if_neg h

/-- While the server has not ended, a request may come in, have its calls reach the pipeline, and
be answered. -/
theorem leads_request (w : Running) (hopen : w.stage.isClosed = false) {q : Pipeline}
    (h : w.dispatch.pipeline.Arrives q) : w.Leads (w.withPipeline q) := by
  have haccept : w.step? .accept = some { w with requests := w.requests + 1 } :=
    if_neg (by rw [hopen]; exact Bool.false_ne_true)
  have hserved : Leads { w with requests := w.requests + 1 }
      (withPipeline { w with requests := w.requests + 1 } q) :=
    leads_arrives (Nat.succ_ne_zero w.requests) h
  have hrespond : (withPipeline { w with requests := w.requests + 1 } q).step? .respond =
      some (w.withPipeline q) :=
    (withPipeline { w with requests := w.requests + 1 } q).step?_respond (Nat.succ_ne_zero _)
  exact ((Leads.of_step? haccept).trans hserved).trans (.of_step? hrespond)

/-- **A request is a run of moves.** To the stores this is as if it were served at once. -/
theorem leads_serve (w : Running) (hopen : w.stage.isClosed = false)
    (reader : ByteArray → Option Json) (now : Instant) (r : Http.Request) :
    ∃ q, w.Leads (w.withPipeline q) ∧
      Pipeline.SameStores (Http.serveWith reader w.dispatch.pipeline now r).1 q := by
  obtain ⟨q, health, harrives, hserve⟩ :=
    Pipeline.exists_arrives_serveWith reader w.dispatch.pipeline now r
  exact ⟨q, w.leads_request hopen harrives,
    hserve ▸ Pipeline.sameStores_of_counters q health q.tasks⟩

/-! ## Cycles -/

section Cycles

variable {σ : Type} (answer : σ → Delivery → σ × Outcome) {w : Running} {task : Task} {last : Bool}

/-- Answers carry the cycle of a loop on to its last delivery. -/
theorem leads_deliverAll (hrunning : w.loops.get task = .running last) {o : OpenCycle}
    (hgoing : w.dispatch.going.get task = some o) (s : σ) :
    ∃ t : Transcript, w.Leads { w with
      dispatch := { w.dispatch with
        pipeline := (Pipeline.deliverAll answer w.dispatch.pipeline o.cycle s).1
        going := w.dispatch.going.set task (some
          ⟨(Pipeline.deliverAll answer w.dispatch.pipeline o.cycle s).2.1, t⟩) } } := by
  generalize hp : w.dispatch.pipeline = p, hc : o.cycle = c
  fun_induction Pipeline.deliverAll answer p c s generalizing w o with
  | case1 p c s hpending =>
    subst hp hc
    refine ⟨o.transcript, ?_⟩
    rw [← hgoing, PerTask.set_get]
    exact .refl w
  | case2 p c s d rest hpending s' outcome hanswer _ ih =>
    subst hp hc
    have hanswered := leads_answer hrunning hgoing (by simp [hpending]) outcome
    have hsettled : (w.dispatch.settle task o outcome).going.get task =
        some (o.settle outcome) := PerTask.get_set_self ..
    obtain ⟨t, hrest⟩ :=
      @ih { w with dispatch := w.dispatch.settle task o outcome } hrunning (o.settle outcome)
        hsettled rfl rfl
    refine ⟨t, hanswered.trans ?_⟩
    simpa only [Dispatch.settle, PerTask.set_set] using hrest

/-- A loop that is told to end runs a whole cycle, and ends. -/
theorem leads_lastCycle (hw : w.Orderly) (hwaiting : w.loops.get task = .waiting)
    (hcancelled : w.stage = .cancelled) (hflushes : task.flushesOnStop = true) (now : Instant)
    (s : σ) :
    ∃ w', w.Leads w' ∧
      w'.dispatch.pipeline = (w.dispatch.pipeline.runCycle answer now task s).1 ∧
      w'.loops = w.loops.set task .ended ∧ w'.stage = .cancelled := by
  have hbegins := leads_last hw hwaiting hcancelled hflushes now
  have hrunning : (w.loops.set task (.running true)).get task = .running true :=
    PerTask.get_set_self ..
  obtain ⟨-, -, -, hpending, -, -⟩ := Pipeline.exists_deliverAll answer
    (w.dispatch.pipeline.beginCycle now task).1 s
    (w.dispatch.pipeline.follows_beginCycle now task)
  obtain ⟨t, hdelivers⟩ := @leads_deliverAll _ answer
    { w with dispatch := w.dispatch.begin now task, loops := w.loops.set task (.running true) }
    task true hrunning _ (PerTask.get_set_self ..) s
  refine ⟨_, (hbegins.trans hdelivers).trans
    (leads_finish hrunning (PerTask.get_set_self ..) hpending), rfl, ?_, hcancelled⟩
  exact PerTask.set_set ..

end Cycles

end Running

/-! ## The stop -/

/-- Runs a cycle of a task, from which its collaborator goes on. -/
def Pipeline.flush {σ : Type} (answer : σ → Delivery → σ × Outcome) (now : Instant)
    (state : Pipeline × σ) (task : Task) : Pipeline × σ :=
  ((state.1.runCycle answer now task state.2).1, (state.1.runCycle answer now task state.2).2.1)

namespace Running

variable {σ : Type} {w : Running}

/-- One task after the other runs its last cycle. -/
theorem leads_lastCycles (answer : σ → Delivery → σ × Outcome) (hw : w.Orderly)
    (hcancelled : w.stage = .cancelled) {tasks : List Task} (hnodup : tasks.Nodup)
    (hwaiting : ∀ task ∈ tasks, w.loops.get task = .waiting)
    (hflushes : ∀ task ∈ tasks, task.flushesOnStop = true) (now : Instant) (s : σ) :
    ∃ w', w.Leads w' ∧
      w'.dispatch.pipeline =
        (tasks.foldl (Pipeline.flush answer now) (w.dispatch.pipeline, s)).1 ∧
      (∀ task, w'.loops.get task = if task ∈ tasks then .ended else w.loops.get task) ∧
      w'.stage = .cancelled := by
  induction tasks generalizing w s with
  | nil => exact ⟨w, .refl w, rfl, fun task => (if_neg List.not_mem_nil).symm, hcancelled⟩
  | cons first rest ih =>
    obtain ⟨hfirst, hrest⟩ := List.nodup_cons.mp hnodup
    obtain ⟨next, hleads, hpipeline, hloops, hstage⟩ := leads_lastCycle answer hw
      (hwaiting first List.mem_cons_self) hcancelled (hflushes first List.mem_cons_self) now s
    have hothers : ∀ task ∈ rest, next.loops.get task = .waiting := by
      intro task htask
      have hne : task ≠ first := fun heq => hfirst (heq ▸ htask)
      rw [hloops, PerTask.get_set_of_ne _ hne]
      exact hwaiting task (List.mem_cons_of_mem first htask)
    obtain ⟨w', hleads', hpipeline', hloops', hstage'⟩ := ih (hleads.orderly hw) hstage hrest
      hothers (fun task htask => hflushes task (List.mem_cons_of_mem first htask))
      (w.dispatch.pipeline.runCycle answer now first s).2.1
    refine ⟨w', hleads.trans hleads', ?_, fun task => ?_, hstage'⟩
    · rw [hpipeline', hpipeline]
      rfl
    · rw [hloops', hloops, PerTask.get_set]
      by_cases hmem : task ∈ rest
      · rw [if_pos hmem, if_pos (List.mem_cons_of_mem first hmem)]
      · simp [hmem]

/-- An agent that serves no request and is asked to stop tells its loops to end. -/
theorem leads_cancelled (hserving : w.stage = .serving) (hserved : w.requests = 0) :
    w.Leads { w with stage := .cancelled } := by
  have hstop : w.Leads { w with stage := .closing } :=
    @Leads.of_step? _ _ .stop (if_pos hserving)
  have hclose : Leads { w with stage := .closing } { w with stage := .closed } :=
    @Leads.of_step? _ _ .close (if_pos ⟨rfl, hserved⟩)
  exact (hstop.trans hclose).trans (@Leads.of_step? _ _ .cancel rfl)

/-- When every loop has ended, the agent has stopped. -/
theorem leads_stopped (hcancelled : w.stage = .cancelled)
    (hended : ∀ task, w.loops.get task = .ended) : w.Leads { w with stage := .stopped } :=
  @Leads.of_step? _ _ .join (if_pos ⟨hcancelled, fun task _ => hended task⟩)

/-- **A stop is a run of moves.** Where every loop waits and no request is served, an agent may be
asked to stop and come to an end, and its pipeline is then what a stop at once leaves. -/
theorem leads_stop (hw : w.Orderly) (hserving : w.stage = .serving) (hserved : w.requests = 0)
    (hwaiting : ∀ task, w.loops.get task = .waiting) {agent : Agent}
    (hpipeline : agent.pipeline = w.dispatch.pipeline) (carry : σ → Post → σ × PostReply)
    (now : Instant) (s : σ) :
    ∃ w', w.Leads w' ∧ w'.stage = .stopped ∧
      w'.dispatch.pipeline = (agent.stop carry now s).1.pipeline := by
  have htold := leads_cancelled hserving hserved
  obtain ⟨flushed, hflush, hlast, hloops, hcancelled⟩ :=
    @leads_lastCycles _ { w with stage := .cancelled } (agent.exporter.answer carry)
      (htold.orderly hw) rfl (Task.all.filter Task.flushesOnStop) (by decide)
      (fun task _ => hwaiting task) (fun task htask => (List.mem_filter.mp htask).2) now s
  have hleave : flushed.Leads (flushed.enter .discovery .ended) :=
    leads_ended ((hloops .discovery).trans (hwaiting .discovery)) hcancelled rfl
  have hended (task : Task) : (flushed.enter .discovery .ended).loops.get task = .ended := by
    rw [enter, PerTask.get_set, hloops]
    cases task <;> rfl
  refine ⟨_, ((htold.trans hflush).trans hleave).trans (leads_stopped hcancelled hended), rfl, ?_⟩
  rw [Agent.stop, hpipeline]
  exact hlast

end Running

end CloudCollector
