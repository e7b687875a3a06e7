import CloudCollector.Proofs.Delivery.QuietStop
import CloudCollector.Scheduler.Basic

/-!
# The scheduler goes by moves

The scheduler lets its loops go on in the order that a clock gives them, against rehearsed
collaborators. Whatever these are, what it does is a run of moves: as a scheduler starts, takes what
comes in, lets time pass and stops, a running agent goes with it that stands as it does, with the
same pipeline.
-/

namespace CloudCollector

/-- A loop of a scheduler stands as one of a running agent, with the cycle that it is in. -/
def LoopPhase.Stands : LoopPhase → LoopStage → Option OpenCycle → Prop
  | .waiting, stage, _ => stage = .waiting
  | .delivering c _ _ final, stage, going =>
    stage = .running final ∧ c.pending ≠ [] ∧ ∃ t, going = some ⟨c, t⟩
  | .ended, stage, _ => stage = .ended

namespace Scheduler

/-! ## Whether the loops are told to end

Only a stop tells them. -/

section Stopping

variable (s : Scheduler) (task : Task)

/-- A cycle that is carried on does not tell the loops to end. -/
@[simp]
theorem stopping_carryOn (c : Cycle) : (s.carryOn c).1.stopping = s.stopping := by
  fun_induction carryOn s c with
  | case1 => rfl
  | case2 =>
    rename_i ih
    exact ih
  | case3 => rfl

/-- A cycle that begins does not tell the loops to end. -/
@[simp]
theorem stopping_beginCycle : (s.beginCycle task).1.stopping = s.stopping :=
  stopping_carryOn ..

/-- A last cycle does not tell the loops to end. -/
@[simp]
theorem stopping_runLast : (s.runLast task).stopping = s.stopping := by
  rw [runLast, ← s.stopping_beginCycle task]
  split
  · split <;> next heq => rw [heq]; rfl
  · rw [stopping_beginCycle]
    rfl

/-- The end of a cycle does not tell the loops to end. -/
@[simp]
theorem stopping_afterCycle (final : Bool) : (s.afterCycle task final).stopping = s.stopping := by
  rw [afterCycle]
  split
  · rfl
  · split
    · exact s.stopping_runLast task
    · rfl

/-- A loop that goes on does not tell the loops to end. -/
@[simp]
theorem stopping_goOn (final : Bool) (x : Scheduler × Option (Cycle × Response)) :
    (goOn task final x).stopping = x.1.stopping := by
  obtain ⟨s, rest⟩ := x
  cases rest with
  | none => exact s.stopping_afterCycle task final
  | some left => rfl

/-- A loop that wakes does not tell the loops to end. -/
@[simp]
theorem stopping_wake : (s.wake task).stopping = s.stopping := by
  rw [wake]
  split
  · rw [tick, stopping_goOn, stopping_beginCycle]
  · split
    · rw [stopping_goOn, stopping_carryOn]
      rfl
    · rw [stopping_goOn, stopping_carryOn]
  · rfl

/-- Loops that run do not tell each other to end. -/
theorem stopping_run (until? : Option Nat) (fuel : Nat) :
    (run until? fuel s).stopping = s.stopping := by
  induction fuel generalizing s with
  | zero => rfl
  | succ fuel ih =>
    rw [run]
    split
    · rfl
    · split
      · rfl
      · rw [ih, stopping_wake]

/-- The passing of time does not tell the loops to end. -/
theorem stopping_at_time (elapsed : Nat) : { s with elapsed }.stopping = s.stopping := rfl

/-- To let time pass does not tell the loops to end. -/
theorem stopping_advance (d : Span) : (s.advance d).stopping = s.stopping :=
  (stopping_at_time ..).trans (s.stopping_run ..)

/-- To end one loop does not tell all of them to end. -/
theorem stopping_cancel : (s.cancel task).stopping = s.stopping := by
  rw [cancel]
  split
  · exact s.stopping_runLast task
  · rfl
  · rfl

/-- To end loops one after the other does not tell all of them to end. -/
theorem stopping_foldl_cancel (tasks : List Task) :
    (tasks.foldl cancel s).stopping = s.stopping := by
  induction tasks generalizing s with
  | nil => rfl
  | cons task rest ih => exact (ih _).trans (s.stopping_cancel task)

end Stopping

/-! ## A scheduler beside a running agent -/

/-- A scheduler stands as a running agent, but for the loop of a task that is going on. -/
structure Stands (s : Scheduler) (apart : Option Task) (w : Running) : Prop where
  orderly : w.Orderly
  pipeline : w.dispatch.pipeline = s.pipeline
  stage : w.stage = if s.stopping then .cancelled else .serving
  served : w.requests = 0
  loops : ∀ task, apart ≠ some task →
    (s.loops.get task).phase.Stands (w.loops.get task) (w.dispatch.going.get task)

/-- A loop that is going on comes to the end of its cycle, or to a delivery that takes its time. -/
def Carried (task : Task) (final : Bool) (w : Running) : Option (Cycle × Response) → Prop
  | none => w.loops.get task = if final then .ended else .waiting
  | some (c, _) => w.loops.get task = .running final ∧ c.pending ≠ [] ∧
    ∃ t, w.dispatch.going.get task = some ⟨c, t⟩

variable {s s' : Scheduler} {task : Task} {w w' : Running}

namespace Stands

/-- Where no loop is going on, each stands as its own one of the running agent. -/
theorem loop (h : s.Stands none w) (task : Task) :
    (s.loops.get task).phase.Stands (w.loops.get task) (w.dispatch.going.get task) :=
  h.loops task (Option.some_ne_none task).symm

/-- A scheduler may stand apart from the running agent by any loop. -/
theorem goOn (h : s.Stands none w) (task : Task) : s.Stands (some task) w :=
  ⟨h.orderly, h.pipeline, h.stage, h.served, fun other _ => h.loop other⟩

/-- Moves have no clock. -/
theorem at_time {apart : Option Task} (h : s.Stands apart w) (elapsed : Nat) :
    { s with elapsed }.Stands apart w :=
  ⟨h.orderly, h.pipeline, h.stage, h.served, h.loops⟩

/-- A loop that is going on changes nothing for the others. -/
theorem of_frame (h : s.Stands (some task) w) (hw' : w'.Orderly)
    (hpipeline : w'.dispatch.pipeline = s'.pipeline) (hstopping : s'.stopping = s.stopping)
    (hstage : w'.stage = w.stage) (hserved : w'.requests = w.requests)
    (hloops : s'.loops = s.loops)
    (hothers : ∀ other, other ≠ task → w'.loops.get other = w.loops.get other ∧
      w'.dispatch.going.get other = w.dispatch.going.get other) :
    s'.Stands (some task) w' := by
  refine ⟨hw', hpipeline, by rw [hstage, h.stage, hstopping], hserved.trans h.served, ?_⟩
  intro other hother
  have hne : other ≠ task := fun heq => hother (congrArg some heq.symm)
  rw [hloops, (hothers other hne).1, (hothers other hne).2]
  exact h.loops other hother

/-- A loop that has been going on comes to stand. -/
theorem stand (h : s.Stands (some task) w) {l : TaskLoop} (hpipeline : s'.pipeline = s.pipeline)
    (hstopping : s'.stopping = s.stopping) (hloops : s'.loops = s.loops.set task l)
    (hphase : l.phase.Stands (w.loops.get task) (w.dispatch.going.get task)) :
    s'.Stands none w := by
  refine ⟨h.orderly, hpipeline ▸ h.pipeline, hstopping ▸ h.stage, h.served, fun other _ => ?_⟩
  rw [hloops, PerTask.get_set]
  split
  · next heq => exact heq ▸ hphase
  · next hne => exact h.loops other fun heq => hne (Option.some.inj heq).symm

end Stands

/-! ## A loop that goes on -/

/-- A delivery that is to come gets its answer. -/
theorem leads_settle (h : s.Stands (some task) w) {final : Bool} {c : Cycle} {t : Transcript}
    (hrunning : w.loops.get task = .running final)
    (hgoing : w.dispatch.going.get task = some ⟨c, t⟩) (hpending : c.pending ≠ [])
    (d : Delivery) (outcome : Outcome) :
    ∃ w', w.Leads w' ∧ (s.settle c d outcome).Stands (some task) w' ∧
      w'.loops.get task = .running final ∧
      w'.dispatch.going.get task = some ⟨c.settle outcome, t.settle c outcome⟩ := by
  have hleads := Running.leads_answer hrunning hgoing hpending outcome
  refine ⟨_, hleads, h.of_frame (hleads.orderly h.orderly) ?_ rfl rfl rfl rfl ?_, hrunning, ?_⟩
  · exact congrArg (fun p => (p.settle c outcome).1) h.pipeline
  · exact fun other hne => ⟨rfl, PerTask.get_set_of_ne _ hne _⟩
  · exact PerTask.get_set_self ..

/-- A cycle is carried on by answers, and then it ends. -/
theorem leads_carryOn (h : s.Stands (some task) w) {final : Bool} {c : Cycle} {t : Transcript}
    (hrunning : w.loops.get task = .running final)
    (hgoing : w.dispatch.going.get task = some ⟨c, t⟩) :
    ∃ w', w.Leads w' ∧ (s.carryOn c).1.Stands (some task) w' ∧
      Carried task final w' (s.carryOn c).2 := by
  fun_induction carryOn s c generalizing w t with
  | case1 s c hpending =>
    have hleads := Running.leads_finish hrunning hgoing hpending
    refine ⟨_, hleads, h.of_frame (hleads.orderly h.orderly) ?_ rfl rfl rfl rfl ?_, ?_⟩
    · exact congrArg (·.endCycle c) h.pipeline
    · exact fun other hne =>
        ⟨PerTask.get_set_of_ne _ hne _, PerTask.get_set_of_ne _ hne _⟩
    · exact PerTask.get_set_self ..
  | case2 s c d rest hpending response outcome hquick hless =>
    rename_i ih
    obtain ⟨next, hleads, hstands, hrunning', hgoing'⟩ :=
      leads_settle h hrunning hgoing (by simp [hpending]) d outcome
    obtain ⟨w', hleads', hcarried⟩ := ih hstands hrunning' hgoing'
    exact ⟨w', hleads.trans hleads', hcarried⟩
  | case3 s c d rest hpending response =>
    exact ⟨w, .refl w, h, hrunning, by simp [hpending], t, hgoing⟩

/-- A loop that begins a cycle carries it on. -/
theorem leads_beginCycle (h : s.Stands (some task) w) {final : Bool}
    (hbegins : w.Leads { w with
      dispatch := w.dispatch.begin s.now task, loops := w.loops.set task (.running final) }) :
    ∃ w', w.Leads w' ∧ (s.beginCycle task).1.Stands (some task) w' ∧
      Carried task final w' (s.beginCycle task).2 := by
  have hstands : { s with pipeline := (s.pipeline.beginCycle s.now task).1 }.Stands (some task)
      { w with
        dispatch := w.dispatch.begin s.now task, loops := w.loops.set task (.running final) } :=
    h.of_frame (hbegins.orderly h.orderly)
      (congrArg (fun p => (p.beginCycle s.now task).1) h.pipeline) rfl rfl rfl rfl
      fun other hne =>
        ⟨PerTask.get_set_of_ne _ hne _, PerTask.get_set_of_ne _ hne _⟩
  have hgoing : (w.dispatch.begin s.now task).going.get task = some
      ⟨(s.pipeline.beginCycle s.now task).2, { offered := s.pipeline.offers s.now task }⟩ := by
    rw [← h.pipeline]
    exact PerTask.get_set_self ..
  obtain ⟨w', hleads, hcarried⟩ :=
    leads_carryOn hstands (PerTask.get_set_self ..) hgoing
  exact ⟨w', hbegins.trans hleads, hcarried⟩

/-- A loop that is told to end runs its last cycle, if its task has one, and ends. -/
theorem leads_runLast (h : s.Stands (some task) w) (hstopping : s.stopping = true)
    (hwaiting : w.loops.get task = .waiting) :
    ∃ w', w.Leads w' ∧ (s.runLast task).Stands none w' := by
  have hcancelled : w.stage = .cancelled := by rw [h.stage, if_pos hstopping]
  rw [runLast]
  split
  · next hflushes =>
    obtain ⟨w', hleads, hstands, hcarried⟩ :=
      leads_beginCycle h (Running.leads_last h.orderly hwaiting hcancelled hflushes s.now)
    split
    · next s' c response heq =>
      rw [heq] at hstands hcarried
      exact ⟨w', hleads, hstands.stand rfl rfl rfl hcarried⟩
    · next s' heq =>
      rw [heq] at hstands hcarried
      exact ⟨w', hleads, hstands.stand rfl rfl rfl hcarried⟩
  · next hleaves =>
    have hended := Running.leads_ended hwaiting hcancelled (Bool.not_eq_true _ ▸ hleaves)
    have hstands : s.Stands (some task) (w.enter task .ended) :=
      h.of_frame (hended.orderly h.orderly) h.pipeline rfl rfl rfl rfl
        fun other hne => ⟨PerTask.get_set_of_ne _ hne _, rfl⟩
    exact ⟨_, hended, hstands.stand rfl rfl rfl (PerTask.get_set_self ..)⟩

/-- After a cycle a loop ends, runs its last cycle or waits. -/
theorem leads_afterCycle (h : s.Stands (some task) w) {final : Bool}
    (hloop : w.loops.get task = if final then .ended else .waiting) :
    ∃ w', w.Leads w' ∧ (s.afterCycle task final).Stands none w' := by
  rw [afterCycle]
  split
  · next hfinal => exact ⟨w, .refl w, h.stand rfl rfl rfl (hloop.trans (if_pos hfinal))⟩
  · next hfinal =>
    split
    · next hstopping => exact leads_runLast h hstopping (hloop.trans (if_neg hfinal))
    · exact ⟨w, .refl w, h.stand rfl rfl rfl (hloop.trans (if_neg hfinal))⟩

/-- What is left of a cycle waits for an answer, or the loop goes on after it. -/
theorem leads_goOn {final : Bool} {x : Scheduler × Option (Cycle × Response)}
    (h : x.1.Stands (some task) w) (hcarried : Carried task final w x.2) :
    ∃ w', w.Leads w' ∧ (goOn task final x).Stands none w' := by
  obtain ⟨s, rest⟩ := x
  cases rest with
  | none => exact leads_afterCycle h hcarried
  | some left => exact ⟨w, .refl w, h.stand rfl rfl rfl hcarried⟩

/-- A loop takes its tick by moves. -/
theorem leads_tick (h : s.Stands none w) (hwaiting : w.loops.get task = .waiting) :
    ∃ w', w.Leads w' ∧ (s.tick task).Stands none w' := by
  let l := s.loops.get task
  have hdue : { s with
      loops := s.loops.set task { l with due := l.nextDue s.elapsed } }.Stands (some task) w := by
    refine ⟨h.orderly, h.pipeline, h.stage, h.served, fun other hother => ?_⟩
    rw [PerTask.get_set, if_neg fun heq => hother (congrArg some heq.symm)]
    exact h.loop other
  obtain ⟨w', hleads, hstands, hcarried⟩ :=
    leads_beginCycle hdue (Running.leads_tick h.orderly hwaiting _)
  obtain ⟨w'', hleads', hstands'⟩ := leads_goOn hstands hcarried
  exact ⟨w'', hleads.trans hleads', hstands'⟩

/-- A loop goes on by moves. -/
theorem leads_wake (h : s.Stands none w) (task : Task) :
    ∃ w', w.Leads w' ∧ (s.wake task).Stands none w' := by
  have hloop := h.loop task
  rw [wake]
  split
  · next hphase =>
    rw [hphase] at hloop
    exact leads_tick h hloop
  · next c response until_ final hphase =>
    rw [hphase] at hloop
    obtain ⟨hrunning, hpending, t, hgoing⟩ := hloop
    split
    · next d _ =>
      obtain ⟨next, hleads, hstands, hrunning', hgoing'⟩ := leads_settle (h.goOn task) hrunning
        hgoing hpending d (response.outcome s.limit)
      obtain ⟨between, hleads', hstands', hcarried⟩ := leads_carryOn hstands hrunning' hgoing'
      obtain ⟨w', hleads'', hstands''⟩ := leads_goOn hstands' hcarried
      exact ⟨w', (hleads.trans hleads').trans hleads'', hstands''⟩
    · next hnone => exact absurd (List.head?_eq_none_iff.mp hnone) hpending
  · exact ⟨w, .refl w, h⟩

/-! ## Runs of a scheduler -/

/-- The loops of a scheduler run as the moves of a running agent do. -/
theorem leads_run (until? : Option Nat) (fuel : Nat) (h : s.Stands none w) :
    ∃ w', w.Leads w' ∧ (run until? fuel s).Stands none w' := by
  induction fuel generalizing s w with
  | zero => exact ⟨w, .refl w, h⟩
  | succ fuel ih =>
    rw [run]
    split
    · exact ⟨w, .refl w, h⟩
    · next time _ =>
      split
      · exact ⟨w, .refl w, h⟩
      · obtain ⟨next, hleads, hstands⟩ := leads_wake (h.at_time (max s.elapsed time)) s.nextTask
        obtain ⟨w', hleads', hstands'⟩ := ih hstands
        exact ⟨w', hleads.trans hleads', hstands'⟩

/-- While time passes, the loops go on by moves. -/
theorem leads_advance (d : Span) (h : s.Stands none w) :
    ∃ w', w.Leads w' ∧ (s.advance d).Stands none w' := by
  obtain ⟨w', hleads, hstands⟩ := leads_run (some (s.elapsed + d.nanos)) (s.maxWakes d) h
  exact ⟨w', hleads, hstands.at_time _⟩

/-- What comes in before the stop comes in with a request. -/
theorem leads_arrival {q : Pipeline} (h : s.Stands none w) (hserving : s.stopping = false)
    (hq : s.pipeline.Arrives q) :
    ∃ w', w.Leads w' ∧ { s with pipeline := q }.Stands none w' := by
  have hopen : w.stage.isClosed = false := by
    rw [h.stage, hserving, if_neg Bool.false_ne_true]
    rfl
  have hleads := w.leads_request hopen (h.pipeline ▸ hq)
  exact ⟨_, hleads, hleads.orderly h.orderly, rfl, h.stage, h.served, h.loops⟩

/-- Each loop that waits is told to end. -/
theorem leads_cancel (h : s.Stands none w) (hstopping : s.stopping = true) (task : Task) :
    ∃ w', w.Leads w' ∧ (s.cancel task).Stands none w' := by
  have hloop := h.loop task
  rw [cancel]
  split
  · next hphase =>
    rw [hphase] at hloop
    exact leads_runLast (h.goOn task) hstopping hloop
  · exact ⟨w, .refl w, h⟩
  · exact ⟨w, .refl w, h⟩

/-- All loops are told to end, each in its turn. -/
theorem leads_cancels (h : s.Stands none w) (hstopping : s.stopping = true) (tasks : List Task) :
    ∃ w', w.Leads w' ∧ (tasks.foldl cancel s).Stands none w' := by
  induction tasks generalizing s w with
  | nil => exact ⟨w, .refl w, h⟩
  | cons task rest ih =>
    obtain ⟨next, hleads, hstands⟩ := leads_cancel h hstopping task
    obtain ⟨w', hleads', hstands'⟩ := ih hstands ((s.stopping_cancel task).trans hstopping)
    exact ⟨w', hleads.trans hleads', hstands'⟩

/-- A scheduler that is stopped first tells its loops to end. -/
theorem leads_told (h : s.Stands none w) (hserving : s.stopping = false) :
    ∃ w', w.Leads w' ∧ (Task.all.foldl cancel { s with stopping := true }).Stands none w' := by
  have hleads : w.Leads { w with stage := .cancelled } :=
    Running.leads_cancelled (by rw [h.stage, hserving]; rfl) h.served
  have htold : { s with stopping := true }.Stands none { w with stage := .cancelled } :=
    ⟨hleads.orderly h.orderly, h.pipeline, rfl, h.served, h.loops⟩
  obtain ⟨w', hleads', hstands⟩ := leads_cancels htold rfl Task.all
  exact ⟨w', hleads.trans hleads', hstands⟩

/-- A scheduler stops by moves. -/
theorem leads_stop (h : s.Stands none w) (hserving : s.stopping = false) :
    ∃ w', w.Leads w' ∧ s.stop.Stands none w' := by
  obtain ⟨between, hleads, hstands⟩ := leads_told h hserving
  obtain ⟨w', hleads', hstands'⟩ := leads_run none s.maxLastWakes hstands
  exact ⟨w', hleads.trans hleads', hstands'⟩

/-- What a scheduler lives through until it is stopped. -/
inductive Lives (first : Scheduler) : Scheduler → Prop where
  | start : Lives first first
  | arrival {s : Scheduler} {q : Pipeline} (h : Lives first s) (hq : s.pipeline.Arrives q) :
    Lives first { s with pipeline := q }
  | advance {s : Scheduler} (h : Lives first s) (d : Span) : Lives first (s.advance d)

/-- A scheduler that starts stands as an agent all of whose loops have taken their first tick. -/
theorem leads_start {agent : Agent}
    (hperiods : ∀ task, (agent.config.intervals.get task).isZero = false) (limit : Span)
    (started : Instant) :
    ∃ w, (Running.start agent).Leads w ∧
      (start agent.pipeline agent.config.intervals limit started).Stands none w := by
  have hstarting (task : Task) : (Running.start agent).loops.get task = .starting := by
    rw [Running.start, PerTask.get_ofFun, hperiods, if_neg Bool.false_ne_true]
  have hphase (task : Task) : ((start agent.pipeline agent.config.intervals limit started).loops.get
      task).phase = .waiting := by
    cases task <;> exact if_neg (by rw [hperiods]; exact Bool.false_ne_true)
  have hleads := (Running.start agent).leads_firstTicks hstarting
  refine ⟨_, hleads, hleads.orderly (Running.orderly_start hperiods), rfl, rfl, rfl,
    fun task _ => ?_⟩
  rw [hphase]
  cases task <;> rfl

/-- **A scheduler goes by moves.** Before it is stopped, a running agent has come by a run of moves
to where it stands as the scheduler does. -/
theorem Lives.leads {agent : Agent}
    (hperiods : ∀ task, (agent.config.intervals.get task).isZero = false) {limit : Span}
    {started : Instant}
    (h : Lives (Scheduler.start agent.pipeline agent.config.intervals limit started) s) :
    s.stopping = false ∧ ∃ w, (Running.start agent).Leads w ∧ s.Stands none w := by
  induction h with
  | start => exact ⟨rfl, leads_start hperiods limit started⟩
  | arrival _ hq ih =>
    obtain ⟨hserving, w, hleads, hstands⟩ := ih
    obtain ⟨w', hleads', hstands'⟩ := leads_arrival hstands hserving hq
    exact ⟨hserving, w', hleads.trans hleads', hstands'⟩
  | @advance s _ d ih =>
    obtain ⟨hserving, w, hleads, hstands⟩ := ih
    obtain ⟨w', hleads', hstands'⟩ := leads_advance d hstands
    exact ⟨(s.stopping_advance d).trans hserving, w', hleads.trans hleads', hstands'⟩

end Scheduler

end CloudCollector
