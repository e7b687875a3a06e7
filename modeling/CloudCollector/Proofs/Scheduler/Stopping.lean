import CloudCollector.Proofs.Scheduler.Moves
import Mathlib.Algebra.BigOperators.Group.List.Basic

/-!
# A scheduler stops

When its loops are told to end, what is left to a scheduler are the deliveries in a cycle and those
of the last cycles to come. A loop that goes on leaves less, so the loops have all ended before the
scheduler stops letting them go on. A scheduler that has stopped has left nothing, and it is a
running agent that has.
-/

namespace CloudCollector

/-! ## What is left -/

/-- A bound on the deliveries that a task would begin a cycle with. -/
def Pipeline.toCome (p : Pipeline) : Task → Nat
  | .datamapFlush => p.targets.size
  | task => (p.waiting task).length

/-- A bound on the deliveries that are left to a loop, with those to come in its last cycle. -/
def LoopPhase.left (toCome : Nat) : LoopPhase → Nat
  | .waiting => toCome
  | .delivering c _ _ final => c.pending.length + if final then 0 else toCome
  | .ended => 0

namespace Pipeline

variable (p : Pipeline) {task : Task}

/-- An answer changes nothing that is to come. -/
theorem toCome_settle (c : Cycle) (outcome : Outcome) (other : Task) :
    (p.settle c outcome).1.toCome other = p.toCome other := by
  cases other <;> rfl

/-- The end of a cycle changes nothing that is to come. -/
theorem toCome_endCycle (c : Cycle) (other : Task) :
    (p.endCycle c).toCome other = p.toCome other := by
  cases other <;> rfl

/-- A last cycle takes nothing from the other tasks. -/
theorem toCome_beginCycle (hflushes : task.flushesOnStop = true) (now : Instant) {other : Task}
    (h : other ≠ task) : (p.beginCycle now task).1.toCome other = p.toCome other := by
  cases other with
  | datamapFlush =>
    cases task with
    | metricFlush => rfl
    | eventFlush => rfl
    | datamapFlush => exact absurd rfl h
    | discovery => cases hflushes
  | _ => exact congrArg List.length ((p.waiting_beginCycle ..).trans (if_neg h))

/-- A drain releases at most one batch for each target. -/
theorem length_batches_drain_le (now : Instant) : (p.drain now).2.length ≤ p.targets.size := by
  rw [batches_drain, ← Dict.length_keys, Dict.keys, List.length_map]
  induction p.targets.entries with
  | nil => exact Nat.le_refl 0
  | cons entry rest ih =>
    have hentry := (entry.2.batches_sublist entry.1 now).length_le
    rw [List.flatMap_cons, List.length_append, List.length_cons]
    rw [List.length_singleton] at hentry
    omega

/-- A cycle begins with no more than what was to come. -/
theorem length_pending_beginCycle_le (now : Instant) (task : Task) :
    (p.beginCycle now task).2.pending.length ≤ p.toCome task := by
  rw [pending_beginCycle]
  cases task with
  | datamapFlush =>
    rw [offers, List.length_map]
    exact p.length_batches_drain_le now
  | _ => exact Nat.le_refl _

end Pipeline

namespace Scheduler

/-- What is left to the loop of a task. -/
def leftTo (s : Scheduler) (task : Task) : Nat :=
  (s.loops.get task).phase.left (s.pipeline.toCome task)

/-- What is left to all loops. -/
def left (s : Scheduler) : Nat :=
  (Task.all.map s.leftTo).sum

/-- A loop has gone on, and leaves no more than so much. -/
structure GoesOn (s : Scheduler) (task : Task) (bound : Nat) (s' : Scheduler) : Prop where
  toCome : ∀ other, other ≠ task → s'.pipeline.toCome other = s.pipeline.toCome other
  others : ∀ other, other ≠ task → s'.loops.get other = s.loops.get other
  goes : (s'.loops.get task).phase ≠ .waiting
  left : s'.leftTo task ≤ bound

variable {s s' : Scheduler} {task : Task} {bound : Nat}

/-- What is left to all loops is what is left to one and to the others. -/
theorem left_eq_add_erase (s : Scheduler) (task : Task) :
    s.left = s.leftTo task + ((Task.all.erase task).map s.leftTo).sum :=
  (List.sum_map_erase _ (Task.mem_all task)).symm

/-- A loop that goes on changes what is left to no other. -/
theorem GoesOn.left_add_le (h : s.GoesOn task bound s') :
    s'.left + s.leftTo task ≤ s.left + bound := by
  have hothers : (Task.all.erase task).map s'.leftTo = (Task.all.erase task).map s.leftTo := by
    refine List.map_congr_left fun other hmem => ?_
    have hne : other ≠ task := (Task.nodup_all.mem_erase_iff.mp hmem).1
    rw [leftTo, leftTo, h.toCome other hne, h.others other hne]
  have hours := h.left
  rw [s'.left_eq_add_erase task, s.left_eq_add_erase task, hothers]
  omega

/-- Where a loop goes on and leaves less than was left to it, less is left to all loops. -/
theorem GoesOn.left_lt (h : s.GoesOn task (s.leftTo task - 1) s') (hpos : 0 < s.leftTo task) :
    s'.left < s.left := by
  have hle := h.left_add_le
  omega

namespace GoesOn

/-- A loop that has come to stand has gone on. -/
theorem of_set {l : TaskLoop} (hpipeline : s'.pipeline = s.pipeline)
    (hloops : s'.loops = s.loops.set task l) (hgoes : l.phase ≠ .waiting)
    (hleft : l.phase.left (s.pipeline.toCome task) ≤ bound) : s.GoesOn task bound s' where
  toCome _ _ := by rw [hpipeline]
  others other hne := by rw [hloops, PerTask.get_set_of_ne _ hne]
  goes := by rwa [hloops, PerTask.get_set_self]
  left := by rwa [leftTo, hloops, PerTask.get_set_self, hpipeline]

/-- What happened to the loop before does not matter. -/
theorem of_frame {between : Scheduler} (h : between.GoesOn task bound s')
    (htoCome : ∀ other, other ≠ task →
      between.pipeline.toCome other = s.pipeline.toCome other)
    (hothers : ∀ other, other ≠ task → between.loops.get other = s.loops.get other) :
    s.GoesOn task bound s' where
  toCome other hne := (h.toCome other hne).trans (htoCome other hne)
  others other hne := (h.others other hne).trans (hothers other hne)
  goes := h.goes
  left := h.left

/-- A loop that leaves no more than so much leaves no more than more. -/
theorem mono {more : Nat} (h : s.GoesOn task bound s') (hle : bound ≤ more) :
    s.GoesOn task more s' :=
  ⟨h.toCome, h.others, h.goes, Nat.le_trans h.left hle⟩

/-- A loop that has gone on waits for no tick. -/
theorem none_waits (h : s.GoesOn task bound s')
    (hgoes : ∀ other, (s.loops.get other).phase ≠ .waiting) (other : Task) :
    (s'.loops.get other).phase ≠ .waiting := by
  by_cases heq : other = task
  · exact heq ▸ h.goes
  · rw [h.others other heq]
    exact hgoes other

end GoesOn

/-! ## A loop that goes on -/

section Frame

variable (s task)

/-- A cycle that is carried on moves no loop. -/
theorem loops_carryOn (c : Cycle) : (s.carryOn c).1.loops = s.loops := by
  fun_induction carryOn s c with
  | case1 => rfl
  | case2 =>
    rename_i ih
    exact ih
  | case3 => rfl

/-- A cycle that is carried on changes nothing that is to come. -/
theorem toCome_carryOn (c : Cycle) (other : Task) :
    (s.carryOn c).1.pipeline.toCome other = s.pipeline.toCome other := by
  fun_induction carryOn s c with
  | case1 s c => exact s.pipeline.toCome_endCycle c other
  | case2 s c d rest hpending response outcome =>
    rename_i ih
    exact ih.trans (s.pipeline.toCome_settle c outcome other)
  | case3 => rfl

/-- A cycle that is carried on has no more deliveries to come. -/
theorem length_pending_carryOn_le {c c' : Cycle} {response : Response}
    (h : (s.carryOn c).2 = some (c', response)) : c'.pending.length ≤ c.pending.length := by
  fun_induction carryOn s c with
  | case1 => cases h
  | case2 s c d rest hpending response outcome hquick hless =>
    rename_i ih
    exact Nat.le_trans (ih h) (Nat.le_of_lt hless)
  | case3 =>
    obtain ⟨rfl, -⟩ := Prod.mk.inj (Option.some.inj h)
    exact Nat.le_refl _

/-- A cycle that begins moves no loop by itself. -/
theorem loops_beginCycle : (s.beginCycle task).1.loops = s.loops :=
  loops_carryOn ..

end Frame

/-- A loop that ends has gone on, and nothing is left to it. -/
theorem goesOn_endLoop (s : Scheduler) (task : Task) (bound : Nat) :
    s.GoesOn task bound (s.endLoop task) :=
  .of_set rfl rfl nofun (Nat.zero_le bound)

/-- A loop that waits for an answer has gone on, with what its cycle has left and what is to
come. -/
theorem goesOn_awaitAnswer (s : Scheduler) (task : Task) {c : Cycle} (response : Response)
    {final : Bool} (h : c.pending.length + (if final then 0 else s.pipeline.toCome task) ≤ bound) :
    s.GoesOn task bound (s.awaitAnswer task c response final) :=
  .of_set rfl rfl nofun h

/-- A loop that runs its last cycle leaves at most what its task begins with. -/
theorem goesOn_runLast (s : Scheduler) (task : Task) :
    s.GoesOn task (s.pipeline.toCome task) (s.runLast task) := by
  rw [runLast]
  split
  · next hflushes =>
    have htoCome : ∀ other, other ≠ task →
        (s.beginCycle task).1.pipeline.toCome other = s.pipeline.toCome other := fun other hne =>
      (toCome_carryOn ..).trans (s.pipeline.toCome_beginCycle hflushes s.now hne)
    have hothers : ∀ other, other ≠ task →
        (s.beginCycle task).1.loops.get other = s.loops.get other := fun other _ => by
      rw [loops_beginCycle]
    have hpending {c : Cycle} {response : Response}
        (h : (s.beginCycle task).2 = some (c, response)) :
        c.pending.length ≤ s.pipeline.toCome task :=
      Nat.le_trans (length_pending_carryOn_le _ h)
        (s.pipeline.length_pending_beginCycle_le s.now task)
    split
    · next between c response heq =>
      rw [heq] at htoCome hothers hpending
      exact (between.goesOn_awaitAnswer task response (hpending rfl)).of_frame htoCome hothers
    · next between heq =>
      rw [heq] at htoCome hothers
      exact (between.goesOn_endLoop task _).of_frame htoCome hothers
  · exact s.goesOn_endLoop task _

/-- After a cycle a loop that is told to end leaves at most its last cycle. -/
theorem goesOn_afterCycle (hstopping : s.stopping = true) (final : Bool) :
    s.GoesOn task (if final then 0 else s.pipeline.toCome task) (s.afterCycle task final) := by
  rw [afterCycle]
  split
  · exact s.goesOn_endLoop task 0
  · exact s.goesOn_runLast task

/-- A loop that goes on with its cycle, or comes to its end, leaves what the cycle has left and what
is to come. -/
theorem goesOn_goOn {final : Bool} {x : Scheduler × Option (Cycle × Response)}
    (hstopping : x.1.stopping = true)
    (h : ∀ c response, x.2 = some (c, response) → c.pending.length ≤ bound) :
    x.1.GoesOn task (bound + if final then 0 else x.1.pipeline.toCome task)
      (goOn task final x) := by
  obtain ⟨s, rest⟩ := x
  cases rest with
  | none => exact (goesOn_afterCycle hstopping final).mono (Nat.le_add_left _ _)
  | some left =>
    exact s.goesOn_awaitAnswer task left.2 (Nat.add_le_add_right (h left.1 left.2 rfl) _)

/-- When a loop goes on that is told to end, less is left to it. -/
theorem goesOn_wake (hstopping : s.stopping = true) {c : Cycle} {response : Response}
    {until_ : Nat} {final : Bool}
    (hphase : (s.loops.get task).phase = .delivering c response until_ final)
    (hpending : c.pending ≠ []) : s.GoesOn task (s.leftTo task - 1) (s.wake task) := by
  obtain ⟨d, rest, hcons⟩ := List.exists_cons_of_ne_nil hpending
  have hcurrent : c.current? = some d := by rw [Cycle.current?, hcons, List.head?_cons]
  have hless := Cycle.length_pending_settle_lt hcons (response.outcome s.limit)
  have hleft : s.leftTo task =
      c.pending.length + if final then 0 else s.pipeline.toCome task := by
    rw [leftTo, hphase, LoopPhase.left]
  have htoCome (other : Task) :
      ((s.settle c d (response.outcome s.limit)).carryOn
        (c.settle (response.outcome s.limit))).1.pipeline.toCome other =
      s.pipeline.toCome other := (toCome_carryOn ..).trans (s.pipeline.toCome_settle ..)
  have hgoes := @goesOn_goOn task _ final
    ((s.settle c d (response.outcome s.limit)).carryOn (c.settle (response.outcome s.limit)))
    ((stopping_carryOn ..).trans hstopping) fun _ _ => length_pending_carryOn_le _
  rw [wake, hphase]
  simp only [hcurrent]
  refine (hgoes.mono ?_).of_frame (fun other _ => htoCome other) fun other _ => ?_
  · rw [htoCome, hleft]
    omega
  · rw [loops_carryOn]
    rfl

/-! ## The end of a run -/

/-- Of loops that stand, one that has ended is next only if all have. -/
theorem wakeTime?_foldl_eq_none {best : Task} {tasks : List Task}
    (h : (s.loops.get (tasks.foldl (fun best task =>
      if (s.loops.get task).isBefore (s.loops.get best) then task else best) best)).wakeTime? =
        none) :
    (s.loops.get best).wakeTime? = none ∧ ∀ task ∈ tasks, (s.loops.get task).wakeTime? = none := by
  induction tasks generalizing best with
  | nil => exact ⟨h, by simp⟩
  | cons first rest ih =>
    have hbest : (s.loops.get (if (s.loops.get first).isBefore (s.loops.get best) then first
        else best)).wakeTime? = none := (ih h).1
    split at hbest
    · next hbefore =>
      rw [TaskLoop.isBefore, hbest] at hbefore
      cases hbefore
    · next hbefore =>
      refine ⟨hbest, List.forall_mem_cons.mpr ⟨?_, (ih h).2⟩⟩
      rw [TaskLoop.isBefore, hbest] at hbefore
      cases htime : (s.loops.get first).wakeTime? with
      | none => rfl
      | some time =>
        rw [htime] at hbefore
        exact absurd rfl hbefore

/-- A loop has ended exactly when nothing will wake it. -/
theorem phase_eq_ended_iff {l : TaskLoop} : l.phase = .ended ↔ l.wakeTime? = none := by
  rw [TaskLoop.wakeTime?]
  cases l.phase <;> simp

/-- When no loop goes on, all have ended. -/
theorem ended_of_nextTask (h : (s.loops.get s.nextTask).wakeTime? = none) (task : Task) :
    (s.loops.get task).phase = .ended :=
  phase_eq_ended_iff.mpr ((wakeTime?_foldl_eq_none h).2 task (Task.mem_all task))

/-- When nothing is left, all loops have ended. -/
theorem ended_of_left {w : Running} (h : s.Stands none w)
    (hgoes : ∀ task, (s.loops.get task).phase ≠ .waiting) (hleft : s.left = 0) (task : Task) :
    (s.loops.get task).phase = .ended := by
  have hnothing : s.leftTo task = 0 := by
    rw [s.left_eq_add_erase task] at hleft
    exact (Nat.eq_zero_of_add_eq_zero hleft).1
  have hloop := h.loop task
  cases hphase : (s.loops.get task).phase with
  | waiting => exact absurd hphase (hgoes task)
  | delivering c response until_ final =>
    rw [hphase] at hloop
    rw [leftTo, hphase, LoopPhase.left] at hnothing
    exact absurd (List.eq_nil_of_length_eq_zero (Nat.eq_zero_of_add_eq_zero hnothing).1) hloop.2.1
  | ended => rfl

/-- Something is left to a loop in the middle of a delivery. -/
theorem leftTo_pos {c : Cycle} {response : Response} {until_ : Nat} {final : Bool}
    (hphase : (s.loops.get task).phase = .delivering c response until_ final)
    (hpending : c.pending ≠ []) : 0 < s.leftTo task := by
  rw [leftTo, hphase, LoopPhase.left]
  exact Nat.add_pos_left (List.length_pos_of_ne_nil hpending) _

/-- Loops that are told to end have ended when they have gone on as often as there were deliveries
left. -/
theorem ended_run {w : Running} (h : s.Stands none w) (hstopping : s.stopping = true)
    (hgoes : ∀ task, (s.loops.get task).phase ≠ .waiting) {fuel : Nat} (hleft : s.left ≤ fuel)
    (task : Task) : ((run none fuel s).loops.get task).phase = .ended := by
  induction fuel generalizing s w with
  | zero => exact ended_of_left h hgoes (Nat.le_zero.mp hleft) task
  | succ fuel ih =>
    rw [run]
    split
    · next hnone => exact ended_of_nextTask hnone task
    · next time htime =>
      rw [Option.any_none, if_neg Bool.false_ne_true]
      have hlater := h.at_time (max s.elapsed time)
      have hloop := h.loop s.nextTask
      cases hphase : (s.loops.get s.nextTask).phase with
      | waiting => exact absurd hphase (hgoes s.nextTask)
      | ended =>
        rw [phase_eq_ended_iff.mp hphase] at htime
        cases htime
      | delivering c response until_ final =>
        rw [hphase] at hloop
        have hgone := @goesOn_wake { s with elapsed := max s.elapsed time } s.nextTask hstopping
          c response until_ final hphase hloop.2.1
        obtain ⟨w', -, hstands⟩ := leads_wake hlater s.nextTask
        have hless := hgone.left_lt (leftTo_pos hphase hloop.2.1)
        exact ih hstands ((stopping_wake ..).trans hstopping) (hgone.none_waits hgoes)
          (Nat.le_of_lt_succ (Nat.lt_of_lt_of_le hless hleft))

/-! ## The stop -/

/-- There are enough wakes for all that is left. -/
theorem left_le_maxLastWakes (s : Scheduler) : s.left ≤ s.maxLastWakes := by
  have hleft (task : Task) :
      s.leftTo task ≤ deliveriesLeft (s.loops.get task) + s.pipeline.toCome task := by
    rw [leftTo, deliveriesLeft]
    cases (s.loops.get task).phase with
    | waiting => exact Nat.le_add_left ..
    | delivering c response until_ final =>
      refine Nat.add_le_add_left ?_ _
      split
      · exact Nat.zero_le _
      · exact Nat.le_refl _
    | ended => exact Nat.zero_le _
  have hmetrics : s.pipeline.toCome .metricFlush = s.pipeline.metrics.length := List.length_map ..
  have hevents : s.pipeline.toCome .eventFlush = s.pipeline.events.length := List.length_map ..
  have htargets : s.pipeline.toCome .datamapFlush = s.pipeline.targets.size := rfl
  have hnothing : s.pipeline.toCome .discovery = 0 := rfl
  have := hleft .metricFlush
  have := hleft .eventFlush
  have := hleft .datamapFlush
  have := hleft .discovery
  simp only [left, maxLastWakes, Task.all, List.map_cons, List.map_nil, List.sum_cons,
    List.sum_nil, List.foldl_cons, List.foldl_nil]
  omega

/-- A loop that is told to end waits for no tick any more, and leaves no more than before. -/
theorem cancel_spec (s : Scheduler) (task : Task) :
    (s.cancel task).left ≤ s.left ∧ ((s.cancel task).loops.get task).phase ≠ .waiting ∧
      ∀ other, other ≠ task → (s.cancel task).loops.get other = s.loops.get other := by
  rw [cancel]
  split
  · next hphase =>
    have hgone := s.goesOn_runLast task
    have hleft := hgone.left_add_le
    rw [leftTo, hphase, LoopPhase.left] at hleft
    exact ⟨Nat.le_of_add_le_add_right hleft, hgone.goes, hgone.others⟩
  · next hphase => exact ⟨Nat.le_refl _, by simp [hphase], fun _ _ => rfl⟩
  · next hphase => exact ⟨Nat.le_refl _, by simp [hphase], fun _ _ => rfl⟩

/-- To tell loops one after the other to end leaves no more than before, and none of them waits
on. -/
theorem foldl_cancel_spec (s : Scheduler) (tasks : List Task) :
    (tasks.foldl cancel s).left ≤ s.left ∧
      ∀ task, task ∈ tasks ∨ (s.loops.get task).phase ≠ .waiting →
        ((tasks.foldl cancel s).loops.get task).phase ≠ .waiting := by
  induction tasks generalizing s with
  | nil => exact ⟨Nat.le_refl _, fun task h => h.resolve_left List.not_mem_nil⟩
  | cons first rest ih =>
    obtain ⟨hleft, hfirst, hothers⟩ := s.cancel_spec first
    obtain ⟨hleft', hgoes⟩ := ih (s.cancel first)
    refine ⟨Nat.le_trans hleft' hleft, fun task h => hgoes task ?_⟩
    by_cases heq : task = first
    · exact .inr (heq ▸ hfirst)
    · rw [hothers task heq]
      exact h.imp_left fun hmem => (List.mem_cons.mp hmem).resolve_left heq

/-- A scheduler that is stopped lets its loops go on until all have ended. -/
theorem ended_stop {w : Running} (h : s.Stands none w) (hserving : s.stopping = false)
    (task : Task) : (s.stop.loops.get task).phase = .ended := by
  obtain ⟨w', -, hstands⟩ := leads_told h hserving
  obtain ⟨hleft, hgoes⟩ := foldl_cancel_spec { s with stopping := true } Task.all
  exact ended_run hstands (stopping_foldl_cancel ..)
    (fun task => hgoes task (.inl (Task.mem_all task)))
    (Nat.le_trans hleft s.left_le_maxLastWakes) task

/-! ## Main result -/

/-- **A scheduler stops with nothing left.** Whatever it lived through, when a scheduler is stopped
all its loops end. It is then a running agent that has stopped by a run of moves, and no metric
writes and no events wait. -/
theorem Lives.stops {agent : Agent}
    (hperiods : ∀ task, (agent.config.intervals.get task).isZero = false) {limit : Span}
    {started : Instant}
    (h : Lives (Scheduler.start agent.pipeline agent.config.intervals limit started) s) :
    (∀ task, (s.stop.loops.get task).phase = .ended) ∧
      (∃ w, (Running.start agent).Leads w ∧ w.stage = .stopped ∧
        w.dispatch.pipeline = s.stop.pipeline) ∧
      s.stop.pipeline.metrics = [] ∧ s.stop.pipeline.events = [] := by
  obtain ⟨hserving, w, hleads, hstands⟩ := h.leads hperiods
  have hended := ended_stop hstands hserving
  obtain ⟨w', hleads', hstands'⟩ := leads_stop hstands hserving
  have hloops (task : Task) : w'.loops.get task = .ended := by
    have hloop := hstands'.loop task
    rwa [hended] at hloop
  have hnothing (task : Task) (hflushes : task.flushesOnStop = true) :
      s.stop.pipeline.waiting task = [] := by
    rw [← hstands'.pipeline]
    exact (hstands'.orderly.last task (by rw [hloops]; rfl)).2 hflushes
  have hcancelled : w'.stage = .cancelled := by
    rw [hstands'.stage, stop, stopping_run, stopping_foldl_cancel]
    rfl
  exact ⟨hended,
    ⟨_, (hleads.trans hleads').trans (Running.leads_stopped hcancelled hloops), rfl,
      hstands'.pipeline⟩,
    List.map_eq_nil_iff.mp (hnothing .metricFlush rfl),
    List.map_eq_nil_iff.mp (hnothing .eventFlush rfl)⟩

end Scheduler

end CloudCollector
