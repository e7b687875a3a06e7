import CloudCollector.Proofs.Delivery.Accounting
import CloudCollector.Proofs.Pipeline.Arrivals
import CloudCollector.Proofs.Pipeline.Stores
import Mathlib.Data.List.Forall2

/-!
# Failed batches change nothing

A drain commits before its batches are handed over, so what becomes of them is of no consequence. A
cycle hands over the batch of every target, whichever of them fail. Two runs that differ in nothing
but the answers to batches have the same stores and hand over the same batches. And what a batch
holds is never part of a later one, not even if it failed.
-/

namespace CloudCollector

namespace Pipeline

/-- A drain releases at most one batch for each target. -/
theorem nodup_targets_drain (p : Pipeline) (now : Instant) :
    ((p.drain now).2.map (·.target)).Nodup := by
  have hone : ∀ entry ∈ p.targets.entries,
      ((entry.2.batches entry.1 now).map (·.target)).Sublist [entry.1] :=
    fun entry _ => (entry.2.batches_sublist entry.1 now).map (·.target)
  have hsublist := List.Sublist.flatMap_right p.targets.entries hone
  rw [batches_drain, List.map_flatMap]
  refine List.Nodup.sublist hsublist ?_
  rw [← List.map_eq_flatMap]
  exact p.targets.nodup_keys

/-- A whole cycle of batches, from one pipeline to the next: the batch of every target is handed
over, and what is stored afterwards is up to the drain alone. -/
structure CycleEach (now : Instant) (p p' : Pipeline) (t : Transcript)
    (result : Except String Nat) : Prop where
  offered : t.offered = (p.drain now).2.map .model
  batches : ∀ target, batchesOf target (p.drain now).2 =
    (p.targets.get? target).elim [] (·.batches target now)
  once : ((p.drain now).2.map (·.target)).Nodup
  ends : EndsEach t result
  stores : SameStores p' (p.drain now).1

/-- A flush of the model hands every batch over once and tells how it fared. -/
theorem exists_cycleEach {σ : Type} (answer : σ → Delivery → σ × Outcome) (p : Pipeline)
    (now : Instant) (s : σ) :
    ∃ t : Transcript,
      Converses answer s t.handed (p.runCycle answer now .datamapFlush s).2.1 ∧
      CycleEach now p (p.runCycle answer now .datamapFlush s).1 t
        (p.runCycle answer now .datamapFlush s).2.2 := by
  obtain ⟨handed, hconverses, hends, -⟩ := exists_runCycle answer p now .datamapFlush s
  exact ⟨⟨p.offers now .datamapFlush, handed⟩, hconverses, rfl, p.batchesOf_drain now,
    p.nodup_targets_drain now, hends.each rfl, p.sameStores_runCycle answer now .datamapFlush s⟩

end Pipeline

/-! ## Two runs -/

/-- What is handed over in a cycle, without the answers. -/
def Transcript.sent (t : Transcript) : List Delivery × List Delivery :=
  (t.offered, t.calls)

/-- What is and will be handed over in a cycle, without the answers. -/
def OpenCycle.sent (o : OpenCycle) : List Delivery × List Delivery × List Delivery :=
  (o.cycle.pending, o.transcript.sent)

/-- Two steps are the same but for the answer to a batch. -/
inductive Act.SameButAnswer : Act → Act → Prop where
  | refl (act : Act) : SameButAnswer act act
  | answer (outcome outcome' : Outcome) :
    SameButAnswer (.answer .datamapFlush outcome) (.answer .datamapFlush outcome')

/-- A cycle of batches goes on to the next one after any answer. -/
theorem Cycle.pending_settle {c : Cycle} (htask : c.task = .datamapFlush) (outcome : Outcome) :
    (c.settle outcome).pending = c.pending.tail := by
  cases hpending : c.pending with
  | nil => rw [settle_of_pending_eq_nil hpending, hpending, List.tail_nil]
  | cons d rest =>
    cases outcome with
    | ok =>
      rw [settle, hpending]
      rfl
    | error =>
      rw [settle, hpending, htask]
      rfl

/-- A cycle hands over its next delivery, if there is one, whatever the answer is. -/
theorem Cycle.map_fst_exchange (c : Cycle) (outcome : Outcome) :
    (c.exchange outcome).map (·.1) = c.pending.head?.toList := by
  cases hpending : c.pending with
  | nil => rw [exchange_of_pending_eq_nil hpending]; rfl
  | cons d rest => rw [exchange_of_pending_eq_cons hpending]; rfl

/-- What is handed over does not depend on an answer. -/
theorem OpenCycle.sent_settle {o o' : OpenCycle} (h : o.sent = o'.sent)
    (htask : o.cycle.task = .datamapFlush) (htask' : o'.cycle.task = .datamapFlush)
    (outcome outcome' : Outcome) : (o.settle outcome).sent = (o'.settle outcome').sent := by
  obtain ⟨hpending, hsent⟩ := Prod.mk.inj h
  obtain ⟨hoffered, hcalls⟩ := Prod.mk.inj hsent
  have hcalls' : (o.settle outcome).transcript.calls = (o'.settle outcome').transcript.calls := by
    have hsettled (o : OpenCycle) (outcome : Outcome) : (o.settle outcome).transcript.calls =
        o.transcript.calls ++ o.cycle.pending.head?.toList :=
      List.map_append.trans (congrArg _ (o.cycle.map_fst_exchange outcome))
    rw [hsettled, hsettled, hcalls, hpending]
  refine Prod.ext ?_ (Prod.ext hoffered hcalls')
  exact (Cycle.pending_settle htask outcome).trans
    ((congrArg List.tail hpending).trans (Cycle.pending_settle htask' outcome').symm)

namespace Dispatch

/-- Two dispatches have the same stores and the same cycles, up to the answers to batches. -/
structure SameButAnswers (w w' : Dispatch) : Prop where
  stores : w.pipeline.SameStores w'.pipeline
  others : ∀ task, task ≠ .datamapFlush → w.going.get task = w'.going.get task
  going : (w.going.get .datamapFlush).map OpenCycle.sent =
    (w'.going.get .datamapFlush).map OpenCycle.sent
  ended : (w.ended.get .datamapFlush).map (fun e => e.transcript.sent) =
    (w'.ended.get .datamapFlush).map (fun e => e.transcript.sent)

namespace SameButAnswers

variable {w w' : Dispatch}

/-- A run does not differ from itself. -/
theorem refl (w : Dispatch) : w.SameButAnswers w :=
  ⟨.refl w.pipeline, fun _ _ => rfl, rfl, rfl⟩

/-- Runs that differ in answers have sent the same in the cycles that are going. -/
theorem sent_going_eq (h : w.SameButAnswers w') (task : Task) :
    (w.going.get task).map OpenCycle.sent = (w'.going.get task).map OpenCycle.sent := by
  by_cases htask : task = .datamapFlush
  · rw [htask]
    exact h.going
  · rw [h.others task htask]

/-- A task is idle in both dispatches or in none. -/
theorem idle (h : w.SameButAnswers w') {task : Task} (hidle : w.going.get task = none) :
    w'.going.get task = none := by
  have hsent := h.sent_going_eq task
  rw [hidle, Option.map_none] at hsent
  exact Option.map_eq_none_iff.mp hsent.symm

/-- A task is in cycles that hand over the same. -/
theorem exists_going (h : w.SameButAnswers w') {task : Task} {o : OpenCycle}
    (hgoing : w.going.get task = some o) :
    ∃ o', w'.going.get task = some o' ∧ o.sent = o'.sent := by
  have hsent := h.sent_going_eq task
  rw [hgoing, Option.map_some] at hsent
  obtain ⟨o', ho', heq⟩ := Option.map_eq_some_iff.mp hsent.symm
  exact ⟨o', ho', heq.symm⟩

/-- A call makes no difference to runs that differ in answers. -/
theorem call (h : w.SameButAnswers w') (c : Pipeline.Call) (hc : c.takes = false) :
    (w.perform (.call c hc)).SameButAnswers (w'.perform (.call c hc)) :=
  ⟨h.stores.perform c, h.others, h.going, h.ended⟩

/-- A cycle that begins makes no difference to runs that differ in answers. -/
theorem begin (h : w.SameButAnswers w') (now : Instant) (task : Task) :
    (w.begin now task).SameButAnswers (w'.begin now task) := by
  have hcycle : (⟨(w.pipeline.beginCycle now task).2,
        { offered := w.pipeline.offers now task }⟩ : OpenCycle) =
      ⟨(w'.pipeline.beginCycle now task).2, { offered := w'.pipeline.offers now task }⟩ := by
    rw [h.stores.beginCycle_snd_eq, h.stores.offers_eq]
  refine ⟨h.stores.beginCycle_fst now task, ?_, ?_, h.ended⟩
  · intro other hother
    simp only [Dispatch.begin, PerTask.get_set, hcycle, h.others other hother]
  · simp only [Dispatch.begin, PerTask.get_set, hcycle]
    split
    · rfl
    · exact h.going

/-- An answer to a batch makes no difference. -/
theorem settle_batch (h : w.SameButAnswers w') {o o' : OpenCycle} (hsent : o.sent = o'.sent)
    (htask : o.cycle.task = .datamapFlush) (htask' : o'.cycle.task = .datamapFlush)
    (outcome outcome' : Outcome) :
    (w.settle .datamapFlush o outcome).SameButAnswers (w'.settle .datamapFlush o' outcome') := by
  refine ⟨?_, ?_, ?_, h.ended⟩
  · exact (w.pipeline.sameStores_settle o.cycle outcome).trans
      (h.stores.trans (w'.pipeline.sameStores_settle o'.cycle outcome').symm)
  · intro other hother
    simp only [Dispatch.settle, PerTask.get_set_of_ne _ hother, h.others other hother]
  · simp only [Dispatch.settle, PerTask.get_set, if_true, Option.map_some]
    rw [OpenCycle.sent_settle hsent htask htask' outcome outcome']

/-- The same answer to another task makes no difference to runs that differ in answers. -/
theorem settle_other (h : w.SameButAnswers w') {task : Task} (htask : task ≠ .datamapFlush)
    (o : OpenCycle) (outcome : Outcome) :
    (w.settle task o outcome).SameButAnswers (w'.settle task o outcome) := by
  refine ⟨?_, ?_, ?_, h.ended⟩
  · exact (w.pipeline.sameStores_settle o.cycle outcome).trans
      (h.stores.trans (w'.pipeline.sameStores_settle o.cycle outcome).symm)
  · intro other hother
    simp only [Dispatch.settle, PerTask.get_set, h.others other hother]
  · simp only [Dispatch.settle, PerTask.get_set, if_neg htask.symm]
    exact h.going

/-- Cycles that have sent the same make no difference when they end. -/
theorem close (h : w.SameButAnswers w') {task : Task} {o o' : OpenCycle}
    (hsent : o.sent = o'.sent) :
    (w.close task o).SameButAnswers (w'.close task o') := by
  refine ⟨?_, ?_, ?_, ?_⟩
  · exact (w.pipeline.sameStores_endCycle o.cycle).trans
      (h.stores.trans (w'.pipeline.sameStores_endCycle o'.cycle).symm)
  · intro other hother
    simp only [Dispatch.close, PerTask.get_set, h.others other hother]
  · simp only [Dispatch.close, PerTask.get_set]
    split
    · rfl
    · exact h.going
  · simp only [Dispatch.close, PerTask.get_set]
    split
    · next htask =>
      rw [← htask, List.map_append, List.map_append, h.ended]
      exact congrArg (fun sent => _ ++ [sent]) (Prod.mk.inj hsent).2
    · exact h.ended

section Perform

variable (h : w.SameButAnswers w')
  (htask : ∀ o, w.going.get .datamapFlush = some o → o.cycle.task = .datamapFlush)
  (htask' : ∀ o, w'.going.get .datamapFlush = some o → o.cycle.task = .datamapFlush)

include h

include htask htask' in
/-- Different answers to a batch make a difference in nothing but what they say. -/
theorem answer_batch (outcome outcome' : Outcome) :
    (w.perform (.answer .datamapFlush outcome)).SameButAnswers
      (w'.perform (.answer .datamapFlush outcome')) := by
  cases hgoing : w.going.get .datamapFlush with
  | none =>
    rw [Dispatch.perform, Dispatch.perform, hgoing, h.idle hgoing]
    exact h
  | some o =>
    obtain ⟨o', hgoing', hsent⟩ := h.exists_going hgoing
    rw [perform_answer hgoing, perform_answer hgoing']
    exact h.settle_batch hsent (htask o hgoing) (htask' o' hgoing') outcome outcome'

/-- Runs that differ in answers begin their cycles alike. -/
theorem start (now : Instant) (task : Task) :
    (w.perform (.start now task)).SameButAnswers (w'.perform (.start now task)) := by
  cases hgoing : w.going.get task with
  | none =>
    rw [perform_start hgoing, perform_start (h.idle hgoing)]
    exact h.begin now task
  | some o =>
    obtain ⟨o', hgoing', -⟩ := h.exists_going hgoing
    rw [Dispatch.perform, Dispatch.perform, hgoing, hgoing']
    exact h

/-- Runs that differ in answers take the same answer to another task alike. -/
theorem answer_other {task : Task} (hother : task ≠ .datamapFlush) (outcome : Outcome) :
    (w.perform (.answer task outcome)).SameButAnswers (w'.perform (.answer task outcome)) := by
  have hsame := h.others task hother
  cases hgoing : w.going.get task with
  | none =>
    rw [Dispatch.perform, Dispatch.perform, ← hsame, hgoing]
    exact h
  | some o =>
    rw [perform_answer hgoing, perform_answer (hsame ▸ hgoing)]
    exact h.settle_other hother o outcome

/-- Runs that differ in answers end their cycles alike. -/
theorem finish (task : Task) :
    (w.perform (.finish task)).SameButAnswers (w'.perform (.finish task)) := by
  cases hgoing : w.going.get task with
  | none =>
    rw [Dispatch.perform, Dispatch.perform, hgoing, h.idle hgoing]
    exact h
  | some o =>
    obtain ⟨o', hgoing', hsent⟩ := h.exists_going hgoing
    have hsame : o.cycle.pending = o'.cycle.pending := (Prod.mk.inj hsent).1
    by_cases hpending : o.cycle.pending = []
    · rw [perform_finish hgoing hpending, perform_finish hgoing' (hsame ▸ hpending)]
      exact h.close hsent
    · rw [Dispatch.perform, Dispatch.perform, hgoing, hgoing']
      dsimp only
      rw [if_neg hpending, if_neg (hsame ▸ hpending)]
      exact h

include htask htask' in
/-- Steps that are the same but for the answer to a batch make no difference. -/
theorem perform {act act' : Act} (hact : act.SameButAnswer act') :
    (w.perform act).SameButAnswers (w'.perform act') := by
  cases hact with
  | answer outcome outcome' => exact h.answer_batch htask htask' outcome outcome'
  | refl =>
    cases act with
    | call c hc => exact h.call c hc
    | start now task => exact h.start now task
    | finish task => exact h.finish task
    | answer task outcome =>
      by_cases hother : task = .datamapFlush
      · subst hother
        exact h.answer_batch htask htask' outcome outcome
      · exact h.answer_other hother outcome

end Perform

/-- Runs that are the same but for the answers to batches lead to the same. -/
theorem after (h : w.SameButAnswers w') {submitted submitted' : Task → List Delivery}
    (hw : ∀ task, w.Accounts task (submitted task))
    (hw' : ∀ task, w'.Accounts task (submitted' task)) {acts acts' : List Act}
    (hacts : List.Forall₂ Act.SameButAnswer acts acts') :
    (w.after acts).SameButAnswers (w'.after acts') := by
  -- that both runs stay accounted for is what makes a cycle of batches stay one
  induction hacts generalizing w w' submitted submitted' with
  | nil => exact h
  | cons hact _ ih =>
    have hours (o : OpenCycle) (ho : w.going.get .datamapFlush = some o) :=
      ((hw .datamapFlush).going o ho).1
    have hours' (o : OpenCycle) (ho : w'.going.get .datamapFlush = some o) :=
      ((hw' .datamapFlush).going o ho).1
    exact ih (h.perform hours hours' hact) (Accounts.perform hw _) (Accounts.perform hw' _)

/-- What was handed over does not depend on the answers to batches. -/
theorem handed_eq (h : w.SameButAnswers w') : w.handed .datamapFlush = w'.handed .datamapFlush := by
  have hsplit (w : Dispatch) : w.handed .datamapFlush =
      ((w.ended.get .datamapFlush).map (fun e => e.transcript.sent)).flatMap (·.2) ++
        ((w.going.get .datamapFlush).map OpenCycle.sent).toList.flatMap (·.2.2) := by
    rw [handed, transcripts, List.flatMap_append, List.flatMap_map, List.flatMap_map]
    cases w.going.get .datamapFlush <;> rfl
  rw [hsplit, hsplit, h.ended, h.going]

end SameButAnswers

/-! ## Later batches -/

/-- The calls that a step amounts to. -/
def calls (w : Dispatch) : Act → List Pipeline.Call
  | .call call _ => [call]
  | .start now task => if (w.going.get task).isNone then [task.call now] else []
  | .answer _ _ | .finish _ => []

/-- To the stores a step amounts to calls. -/
theorem sameStores_perform (w : Dispatch) (act : Act) :
    (w.perform act).pipeline.SameStores (w.pipeline.after (w.calls act)) := by
  cases act with
  | call call h => exact .refl _
  | start now task =>
    cases hgoing : w.going.get task with
    | none =>
      rw [perform_start hgoing, calls, hgoing, Option.isNone_none, if_pos rfl]
      exact w.pipeline.sameStores_beginCycle now task
    | some o =>
      rw [perform, calls, hgoing]
      exact .refl _
  | answer task outcome =>
    cases hgoing : w.going.get task with
    | none =>
      rw [perform, hgoing]
      exact .refl _
    | some o =>
      rw [perform_answer hgoing]
      exact w.pipeline.sameStores_settle o.cycle outcome
  | finish task =>
    cases hgoing : w.going.get task with
    | none =>
      rw [perform, hgoing]
      exact .refl _
    | some o =>
      rw [perform, hgoing]
      dsimp only
      split
      · exact w.pipeline.sameStores_endCycle o.cycle
      · exact .refl _

/-- A step of a reachable pipeline leads to one. -/
theorem reachable_perform {w : Dispatch} (h : w.pipeline.Reachable) (act : Act) :
    (w.perform act).pipeline.Reachable := by
  have hstep := w.step_perform act
  generalize w.perform act = next at hstep ⊢
  cases hstep with
  | call call _ => exact h.call call
  | idle _ _ => exact h
  | begin now task _ => exact h.beginCycle now task
  | settle task o outcome _ => exact h.settle o.cycle outcome
  | close task o _ _ => exact h.endCycle o.cycle

/-- Acts lead from reachable pipelines to reachable ones. -/
theorem reachable_after {w : Dispatch} (h : w.pipeline.Reachable) (acts : List Act) :
    (w.after acts).pipeline.Reachable := by
  induction acts generalizing w with
  | nil => exact h
  | cons act rest ih => exact ih (reachable_perform h act)

/-- The records of an entity that a run appends to the queue of a target. -/
def arrivals (w : Dispatch) (target id : String) : List Act → List Record
  | [] => []
  | act :: rest =>
    w.pipeline.arrivals target id (w.calls act) ++ (w.perform act).arrivals target id rest

/-- Along a run, what waits for an entity keeps standing for the last of what arrived. -/
theorem standsForLast_after {w : Dispatch} {target id : String} {arrived : List Record}
    (h : Queue.StandsForLast (w.pipeline.waitsFor target id) arrived) (acts : List Act) :
    Queue.StandsForLast ((w.after acts).pipeline.waitsFor target id)
      (arrived ++ w.arrivals target id acts) := by
  induction acts generalizing w arrived with
  | nil => rwa [after_nil, arrivals, List.append_nil]
  | cons act rest ih =>
    have hwaits : (w.perform act).pipeline.waitsFor target id =
        (w.pipeline.after (w.calls act)).waitsFor target id := by
      rw [Pipeline.waitsFor, ((w.sameStores_perform act).sameTargets target).stateOf_eq]
      rfl
    rw [after_cons, arrivals, ← List.append_assoc]
    refine ih ?_
    rw [hwaits]
    exact Pipeline.standsForLast_after h (w.calls act)

/-- What a later batch has of an entity arrived after an earlier one was drained. -/
theorem releasesLast_later (settings : Settings) (before : List Act) (now : Instant)
    (hidle : ((fresh settings).after before).going.get .datamapFlush = none) {batch : Batch}
    (hbatch : batch ∈ (((fresh settings).after before).pipeline.drain now).2) {r : Record}
    (hr : r ∈ batch.records) (later : List Act) (now' : Instant) {batch' : Batch}
    (hbatch' : batch' ∈ (((fresh settings).after
      (before ++ .start now .datamapFlush :: later)).pipeline.drain now').2)
    {r' : Record} (hr' : r' ∈ batch'.records) (htarget : batch'.target = batch.target)
    (hid : r'.targetId = r.targetId) :
    ((fresh settings).after (before ++ .start now .datamapFlush :: later)).pipeline.ReleasesLast
      now' batch.target r.targetId
      (((fresh settings).after (before ++ [.start now .datamapFlush])).arrivals batch.target
        r.targetId later) := by
  have hreachable (acts : List Act) : ((fresh settings).after acts).pipeline.Reachable :=
    reachable_after (.fresh settings) acts
  have hsplit : before ++ .start now .datamapFlush :: later =
      (before ++ [.start now .datamapFlush]) ++ later := by simp
  have hstands : Queue.StandsForLast
      (((fresh settings).after (before ++ [.start now .datamapFlush])).pipeline.waitsFor
        batch.target r.targetId) [] := by
    rw [after_concat, perform_start hidle, begin, Pipeline.waitsFor,
      ((Pipeline.sameStores_beginCycle _ now .datamapFlush).sameTargets batch.target).stateOf_eq]
    exact Pipeline.standsForLast_drain ((hreachable before).keyed_stateOf batch.target) hbatch hr
  have hlater := standsForLast_after hstands later
  rw [← after_append, ← hsplit, List.nil_append, ← htarget, ← hid] at hlater
  rw [← hid, ← htarget]
  exact Pipeline.releasesLast_of_standsForLast ((hreachable _).keyed_stateOf batch'.target) hbatch'
    hr' hlater

/-- **Failed batches change nothing.** A cycle of batches hands over the batch of every target once,
whatever the answers; its result counts the records, or names the targets whose batches failed; and
it leaves the stores as the drain does that it began with. The cycles in any run end like this.
Runs that differ in nothing but the answers to batches have the same stores and hand over the same
batches. And what a later batch has of an entity comes to what arrived since an earlier batch of the
entity was drained. -/
theorem failed_batches_isolated (settings : Settings) :
    (∀ (σ : Type) (answer : σ → Delivery → σ × Outcome) (p : Pipeline) (now : Instant) (s : σ),
      ∃ t : Transcript,
        Converses answer s t.handed (p.runCycle answer now .datamapFlush s).2.1 ∧
        p.CycleEach now (p.runCycle answer now .datamapFlush s).1 t
          (p.runCycle answer now .datamapFlush s).2.2) ∧
    (∀ acts, ∀ e ∈ ((fresh settings).after acts).ended.get .datamapFlush,
      EndsEach e.transcript e.result) ∧
    (∀ acts acts', List.Forall₂ Act.SameButAnswer acts acts' →
      ((fresh settings).after acts).pipeline.SameStores ((fresh settings).after acts').pipeline ∧
      ((fresh settings).after acts).handed .datamapFlush =
        ((fresh settings).after acts').handed .datamapFlush) ∧
    ∀ before now later now' (batch batch' : Batch), ∀ r ∈ batch.records, ∀ r' ∈ batch'.records,
      let w := (fresh settings).after before
      let w' := (fresh settings).after (before ++ .start now .datamapFlush :: later)
      w.going.get .datamapFlush = none →
      .model batch ∈ w.pipeline.offers now .datamapFlush →
      .model batch' ∈ w'.pipeline.offers now' .datamapFlush →
      batch'.target = batch.target → r'.targetId = r.targetId →
      batch'.records = (w'.pipeline.releaseOf batch.target now').ordered ∧
      w'.pipeline.ReleasesLast now' batch.target r.targetId
        ((w.perform (.start now .datamapFlush)).arrivals batch.target r.targetId later) := by
  have hfresh (task : Task) := accounts_after settings [] task
  refine ⟨fun _ answer p now s => p.exists_cycleEach answer now s, ?_, ?_, ?_⟩
  · intro acts e he
    exact ((accounts_after settings acts .datamapFlush).ended e he).each rfl
  · intro acts acts' hacts
    have hsame := (SameButAnswers.refl (fresh settings)).after hfresh hfresh hacts
    exact ⟨hsame.stores, hsame.handed_eq⟩
  · intro before now later now' batch batch' r hr r' hr' w w' hidle hbatch hbatch' htarget hid
    obtain ⟨drained, hdrained, heq⟩ := List.mem_map.mp hbatch
    obtain ⟨drained', hdrained', heq'⟩ := List.mem_map.mp hbatch'
    obtain rfl := Delivery.model.inj heq
    obtain rfl := Delivery.model.inj heq'
    have hlater := releasesLast_later settings before now hidle hdrained hr later now' hdrained' hr'
      htarget hid
    rw [after_concat] at hlater
    exact ⟨htarget ▸ Pipeline.records_of_mem_drain hdrained', hlater⟩

/-- A record that names a disk. -/
def diskNamed (name : String) : Record :=
  { targetId := "disk", fields := .ofList [("name", .string name)] }

/-- Two targets get a record each. -/
def namingActs : List Act :=
  [.call (.appendRecord "lab" (.ofSeconds 7000) (some (diskNamed "old"))) rfl,
    .call (.appendRecord "site" (.ofSeconds 7000) (some (diskNamed "root"))) rfl]

/-- What is made of their batches, and another record for the first target. -/
def renamingActs (outcome : Outcome) : List Act :=
  [.answer .datamapFlush outcome, .answer .datamapFlush (.ok ()), .finish .datamapFlush,
    .call (.appendRecord "lab" (.ofSeconds 7200) (some (diskNamed "new"))) rfl]

/-- The run in which the batch of the first target has an outcome. -/
def labActs (outcome : Outcome) : List Act :=
  namingActs ++ .start (.ofSeconds 7100) .datamapFlush :: renamingActs outcome

/-- A batch that fails does not come again, and the batch of the other target goes out as if it had
not failed. -/
theorem lab_fails_alone :
    (((fresh {}).after (labActs (.error (.refused ["down"])))).ended.get .datamapFlush).map
        EndedCycle.failure? = [some "1 of 2 model batches failed: lab"] ∧
      ((fresh {}).after (labActs (.error (.refused ["down"])))).handed .datamapFlush =
        ((fresh {}).after (labActs (.ok ()))).handed .datamapFlush ∧
      ((fresh {}).after (labActs (.error (.refused ["down"])))).pipeline.ReleasesLast
        (.ofSeconds 7300) "lab" "disk" [diskNamed "new"] := by
  obtain ⟨-, -, hruns, hbatches⟩ := failed_batches_isolated {}
  have hsame : List.Forall₂ Act.SameButAnswer (labActs (.error (.refused ["down"])))
      (labActs (.ok ())) :=
    .cons (.refl _) <| .cons (.refl _) <| .cons (.refl _) <| .cons (.answer _ _) <|
      .cons (.refl _) <| .cons (.refl _) <| .cons (.refl _) .nil
  have hlater := (hbatches namingActs (.ofSeconds 7100)
    (renamingActs (.error (.refused ["down"]))) (.ofSeconds 7300)
    ⟨"lab", [diskNamed "old"]⟩ ⟨"lab", [diskNamed "new"]⟩
    (diskNamed "old") List.mem_cons_self (diskNamed "new") List.mem_cons_self
    (by decide +kernel) (by decide +kernel) (by decide +kernel) rfl rfl).2
  refine ⟨by decide +kernel, (hruns _ _ hsame).2, ?_⟩
  have harrived : (((fresh {}).after namingActs).perform
      (.start (.ofSeconds 7100) .datamapFlush)).arrivals "lab" "disk"
      (renamingActs (.error (.refused ["down"]))) = [diskNamed "new"] := by decide +kernel
  exact harrived ▸ hlater

end Dispatch

end CloudCollector
