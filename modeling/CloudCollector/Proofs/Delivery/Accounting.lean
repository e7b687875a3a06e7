import CloudCollector.Proofs.Delivery.Dispatch
import Mathlib.Data.List.Flatten

/-!
# Deliveries in a row are accounted for

Metric writes and events go out in the order in which they were submitted. Whatever a collaborator
answers, a cycle takes all that waits, hands it over up to the first failure, and gives up the rest.
So along every run what was submitted splits into what each cycle had accepted, what it left, and
what still waits, in the order of submission.
-/

namespace CloudCollector

/-- How many deliveries of a task were accepted. -/
def Health.delivered (h : Health) : Task → Nat
  | .metricFlush => h.metricWrites
  | .eventFlush => h.eventsSent
  | .datamapFlush => h.modelBatches
  | .discovery => 0

/-- A delivery counts for its own task only. -/
theorem Health.delivered_countDelivery (h : Health) (d : Delivery) (task : Task) :
    (h.countDelivery d).delivered task = h.delivered task + if d.task = task then 1 else 0 := by
  cases d <;> cases task <;> rfl

namespace Pipeline

/-- What a call puts last among what waits for a task. -/
def Call.submits (p : Pipeline) (call : Call) : Task → List Delivery
  | .metricFlush => (call.writes p).map .metric
  | .eventFlush => (call.events p).map .event
  | .datamapFlush | .discovery => []

/-! ## What a task sees of the pipeline -/

/-- Two pipelines are the same to a task: the same waits for it, the same was delivered, and it
stands the same. -/
structure SameFor (task : Task) (p q : Pipeline) : Prop where
  waiting : p.waiting task = q.waiting task
  delivered : p.health.delivered task = q.health.delivered task
  status : p.tasks.get task = q.tasks.get task

/-- Pipelines that agree on all that concerns delivery agree on what concerns one task. -/
theorem SameDelivery.sameFor {p q : Pipeline} (h : SameDelivery p q) (task : Task) :
    SameFor task p q where
  waiting := waiting_congr h.metrics h.events task
  delivered := by
    cases task with
    | metricFlush => exact h.metricWrites
    | eventFlush => exact h.eventsSent
    | datamapFlush => exact h.modelBatches
    | discovery => rfl
  status := by rw [h.tasks]

section Steps

variable (p : Pipeline) (task other : Task)

/-- A call that takes away nothing puts last what it submits, and leaves the rest to the tasks as it
was. -/
theorem waiting_perform {call : Call} (h : call.takes = false) :
    (p.perform call).waiting task = p.waiting task ++ call.submits p task := by
  rw [((p.sameDelivery_perform call).sameFor task).waiting]
  have hmetrics : call ≠ .takeMetrics := by
    rintro rfl
    cases h
  have hevents : call ≠ .takeEvents := by
    rintro rfl
    cases h
  cases task with
  | metricFlush => simp [waiting, Call.submits, hmetrics]
  | eventFlush => simp [waiting, Call.submits, hevents]
  | datamapFlush => rfl
  | discovery => rfl

/-- A call delivers nothing. -/
theorem delivered_perform (call : Call) :
    (p.perform call).health.delivered task = p.health.delivered task :=
  ((p.sameDelivery_perform call).sameFor task).delivered

/-- A call leaves the records of the tasks alone. -/
theorem tasks_perform (call : Call) : (p.perform call).tasks = p.tasks :=
  (p.sameDelivery_perform call).tasks

/-- A cycle takes all that waits for its task, and nothing that waits for another. -/
theorem waiting_beginCycle (now : Instant) :
    (p.beginCycle now task).1.waiting other = if other = task then [] else p.waiting other := by
  rw [beginCycle_fst, (((p.setTask task _).sameDelivery_perform (task.call now)).sameFor
    other).waiting]
  cases task <;> cases other <;> simp [waiting, Task.call, Call.writes, Call.events, setTask]

/-- A cycle that begins has delivered nothing yet. -/
theorem delivered_beginCycle (now : Instant) :
    (p.beginCycle now task).1.health.delivered other = p.health.delivered other := by
  rw [beginCycle_fst, delivered_perform]
  rfl

/-- A cycle that begins marks its own task as active and no other. -/
theorem tasks_beginCycle (now : Instant) :
    (p.beginCycle now task).1.tasks = p.tasks.set task (p.tasks.get task).start := by
  rw [beginCycle_fst, tasks_perform]
  rfl

/-- Counting reaches the task of the deliveries only. -/
theorem delivered_foldl_countDelivery {accepted : List Delivery}
    (h : ∀ d ∈ accepted, d.task = task) (health : Health) :
    (accepted.foldl Health.countDelivery health).delivered other =
      health.delivered other + if other = task then accepted.length else 0 := by
  induction accepted generalizing health with
  | nil => simp
  | cons d rest ih =>
    have hd : d.task = task := h d List.mem_cons_self
    rw [List.foldl_cons, ih fun e he => h e (List.mem_cons_of_mem d he),
      Health.delivered_countDelivery, hd, List.length_cons]
    by_cases hother : other = task
    · simp only [hother, if_true]
      omega
    · simp [hother, Ne.symm hother]

/-- A cycle that ends delivers nothing more. -/
theorem delivered_close (result : Except String Nat) :
    (p.close task result).health.delivered other = p.health.delivered other := by
  cases other <;> cases result <;> rfl

end Steps

section OtherTasks

variable {task other : Task} (h : task ≠ other) (p : Pipeline)

include h

/-- A cycle that begins does not concern another task. -/
theorem sameFor_beginCycle (now : Instant) : (p.beginCycle now other).1.SameFor task p where
  waiting := (p.waiting_beginCycle other task now).trans (if_neg h)
  delivered := p.delivered_beginCycle other task now
  status := by rw [tasks_beginCycle, PerTask.get_set_of_ne _ h]

/-- An answer in a cycle does not concern another task. -/
theorem sameFor_settle {c : Cycle} {t : Transcript} (htask : c.task = other) (hc : c.Follows t)
    (outcome : Outcome) : (p.settle c outcome).1.SameFor task p := by
  rw [settle_fst]
  refine ⟨rfl, ?_, rfl⟩
  have hours : ∀ d ∈ (c.exchange outcome).filterMap Transcript.accepted?, d.task = other :=
    fun d hd => (hc.task_of_mem_exchange hd).trans htask
  exact (delivered_foldl_countDelivery other task hours p.health).trans (by rw [if_neg h]; rfl)

/-- A cycle that ends does not concern another task. -/
theorem sameFor_close (result : Except String Nat) : (p.close other result).SameFor task p where
  waiting := by cases task <;> rfl
  delivered := p.delivered_close other task result
  status := PerTask.get_set_of_ne _ h _

end OtherTasks

end Pipeline

/-! ## What a dispatch has done for a task -/

/-- Why a cycle failed, if it did. -/
def EndedCycle.failure? (e : EndedCycle) : Option String :=
  match e.result with
  | .ok _ => none
  | .error cause => some cause

/-- What a step puts last among what waits for a task. -/
def Act.submits (p : Pipeline) (task : Task) : Act → List Delivery
  | .call c _ => c.submits p task
  | _ => []

namespace Dispatch

/-- The transcripts of the cycles of a task, of which the one that goes on is the last. -/
def transcripts (w : Dispatch) (task : Task) : List Transcript :=
  (w.ended.get task).map (·.transcript) ++ ((w.going.get task).map (·.transcript)).toList

/-- What the cycles of a task began with. -/
def offered (w : Dispatch) (task : Task) : List Delivery :=
  (w.transcripts task).flatMap (·.offered)

/-- What the cycles of a task handed over. -/
def handed (w : Dispatch) (task : Task) : List Delivery :=
  (w.transcripts task).flatMap (·.calls)

/-- What the collaborator of a task accepted. -/
def accepted (w : Dispatch) (task : Task) : List Delivery :=
  (w.transcripts task).flatMap (·.accepted)

/-- Why the cycles of a task failed that did. -/
def failures (w : Dispatch) (task : Task) : List String :=
  (w.ended.get task).filterMap EndedCycle.failure?

/-- How a task stands that has been through the cycles of a dispatch. -/
def status (w : Dispatch) (task : Task) : TaskStatus where
  active := (w.going.get task).isSome
  runs := (w.ended.get task).length
  errors := (w.failures task).length
  lastError := (w.failures task).getLast?

/-- What a run puts last among what waits for a task. -/
def submitted (task : Task) (w : Dispatch) : List Act → List Delivery
  | [] => []
  | act :: rest => act.submits w.pipeline task ++ submitted task (w.perform act) rest

/-- What the last act submits comes last. -/
theorem submitted_concat (task : Task) (w : Dispatch) (acts : List Act) (act : Act) :
    w.submitted task (acts ++ [act]) =
      w.submitted task acts ++ act.submits (w.after acts).pipeline task := by
  induction acts generalizing w with
  | nil => exact List.append_nil _
  | cons first rest ih =>
    rw [List.cons_append, submitted, submitted, ih, List.append_assoc]
    rfl

/-- The dispatch accounts for what was submitted to a task. -/
structure Accounts (w : Dispatch) (task : Task) (submitted : List Delivery) : Prop where
  going : ∀ o, w.going.get task = some o → o.cycle.task = task ∧ o.cycle.Follows o.transcript
  ended : ∀ e ∈ w.ended.get task, task.Ends e.transcript e.result
  submitted : task.endsAtFault = true → w.offered task ++ w.pipeline.waiting task = submitted
  delivered : w.pipeline.health.delivered task = (w.accepted task).length
  status : w.pipeline.tasks.get task = w.status task

namespace Accounts

variable {w w' : Dispatch} {task : Task} {submitted : List Delivery}

/-- What changes nothing for a task leaves it accounted for. -/
theorem of_same (h : w.Accounts task submitted) (hpipeline : w'.pipeline.SameFor task w.pipeline)
    (hgoing : w'.going.get task = w.going.get task)
    (hended : w'.ended.get task = w.ended.get task) :
    w'.Accounts task submitted := by
  have htranscripts : w'.transcripts task = w.transcripts task := by
    rw [transcripts, transcripts, hgoing, hended]
  have hstatus : w'.status task = w.status task := by
    rw [Dispatch.status, Dispatch.status, failures, failures, hgoing, hended]
  constructor
  · rw [hgoing]
    exact h.going
  · rw [hended]
    exact h.ended
  · rw [offered, htranscripts, hpipeline.waiting]
    exact h.submitted
  · rw [accepted, htranscripts, hpipeline.delivered]
    exact h.delivered
  · rw [hstatus, hpipeline.status]
    exact h.status

/-- The accounts of a task are kept when it begins a cycle. -/
theorem begin (h : w.Accounts task submitted) (hidle : w.going.get task = none) (now : Instant) :
    (w.begin now task).Accounts task submitted := by
  have htranscripts : (w.begin now task).transcripts task =
      w.transcripts task ++ [{ offered := w.pipeline.offers now task }] := by
    simp [transcripts, Dispatch.begin, hidle]
  constructor
  · intro o ho
    obtain rfl : _ = o := by simpa [Dispatch.begin] using ho
    exact ⟨w.pipeline.task_beginCycle now task, w.pipeline.follows_beginCycle now task⟩
  · exact h.ended
  · intro htask
    have hwaiting : (w.begin now task).pipeline.waiting task = [] :=
      (w.pipeline.waiting_beginCycle task task now).trans (if_pos rfl)
    rw [hwaiting, offered, htranscripts, List.flatMap_append, List.flatMap_singleton,
      Pipeline.offers_of_endsAtFault _ now htask, List.append_nil]
    exact h.submitted htask
  · have hnothing : Transcript.accepted { offered := w.pipeline.offers now task } = [] := rfl
    rw [accepted, htranscripts, List.flatMap_append, List.flatMap_singleton, hnothing,
      List.append_nil]
    exact (w.pipeline.delivered_beginCycle task task now).trans h.delivered
  · have hstatus := h.status
    simp only [Dispatch.status, hidle] at hstatus
    simp [Dispatch.status, Dispatch.begin, failures, Pipeline.tasks_beginCycle, hstatus,
      TaskStatus.start]

/-- The accounts of a task are kept by an answer in its cycle. -/
theorem settle (h : w.Accounts task submitted) {o : OpenCycle} (hgoing : w.going.get task = some o)
    (outcome : Outcome) : (w.settle task o outcome).Accounts task submitted := by
  obtain ⟨htask, hfollows⟩ := h.going o hgoing
  have hbefore : w.transcripts task =
      (w.ended.get task).map (·.transcript) ++ [o.transcript] := by
    rw [transcripts, hgoing]
    rfl
  have hafter : (w.settle task o outcome).transcripts task =
      (w.ended.get task).map (·.transcript) ++ [o.transcript.settle o.cycle outcome] := by
    simp [transcripts, Dispatch.settle, OpenCycle.settle]
  have hours : ∀ d ∈ (o.cycle.exchange outcome).filterMap Transcript.accepted?, d.task = task :=
    fun d hd => (hfollows.task_of_mem_exchange hd).trans htask
  have hpipeline : (w.settle task o outcome).pipeline =
      w.pipeline.countAccepted (o.cycle.exchange outcome) :=
    w.pipeline.settle_fst o.cycle outcome
  constructor
  · intro o' ho'
    obtain rfl : o.settle outcome = o' := by simpa [Dispatch.settle] using ho'
    exact ⟨(o.cycle.task_settle outcome).trans htask, hfollows.settle outcome⟩
  · exact h.ended
  · intro hrow
    have hoffered : (w.settle task o outcome).offered task = w.offered task := by
      rw [offered, offered, hbefore, hafter, List.flatMap_append, List.flatMap_append]
      rfl
    rw [hoffered, hpipeline]
    exact h.submitted hrow
  · have haccepted : (w.settle task o outcome).accepted task =
        w.accepted task ++ (o.cycle.exchange outcome).filterMap Transcript.accepted? := by
      rw [accepted, accepted, hbefore, hafter, List.flatMap_append, List.flatMap_append,
        List.flatMap_singleton, List.flatMap_singleton, List.append_assoc]
      exact congrArg _ List.filterMap_append
    rw [haccepted, hpipeline, List.length_append, ← h.delivered]
    exact (Pipeline.delivered_foldl_countDelivery task task hours _).trans (by rw [if_pos rfl])
  · have hstatus := h.status
    simp only [Dispatch.status, hgoing] at hstatus
    rw [hpipeline]
    exact hstatus.trans (by simp [Dispatch.status, Dispatch.settle, failures])

/-- The accounts of a task are kept when its cycle ends. -/
theorem close (h : w.Accounts task submitted) {o : OpenCycle} (hgoing : w.going.get task = some o)
    (hpending : o.cycle.pending = []) : (w.close task o).Accounts task submitted := by
  obtain ⟨htask, hfollows⟩ := h.going o hgoing
  have htranscripts : (w.close task o).transcripts task = w.transcripts task := by
    simp [transcripts, Dispatch.close, hgoing]
  constructor
  · intro o' ho'
    simp [Dispatch.close] at ho'
  · intro e he
    have hmem : e ∈ w.ended.get task ∨ e = ⟨o.transcript, o.cycle.result⟩ := by
      simpa [Dispatch.close] using he
    rcases hmem with hold | rfl
    · exact h.ended e hold
    · rw [← htask]
      exact hfollows.ends hpending
  · rw [offered, htranscripts]
    exact h.submitted
  · rw [accepted, htranscripts]
    exact (w.pipeline.delivered_close o.cycle.task task o.cycle.result).trans h.delivered
  · have hfinished : (w.close task o).pipeline.tasks.get task =
        (w.status task).finish o.cycle.result := by
      rw [← h.status]
      exact (PerTask.get_set ..).trans (by rw [htask, if_pos rfl])
    rw [hfinished]
    cases hresult : o.cycle.result with
    | ok n =>
      simp [Dispatch.status, Dispatch.close, TaskStatus.finish, failures, EndedCycle.failure?,
        hresult]
    | error cause =>
      simp [Dispatch.status, Dispatch.close, TaskStatus.finish, failures, EndedCycle.failure?,
        hresult]

/-- The accounts of a task are kept by a call, with what it submits. -/
theorem call (h : w.Accounts task submitted) {c : Pipeline.Call} (hc : c.takes = false) :
    (w.perform (.call c hc)).Accounts task (submitted ++ c.submits w.pipeline task) where
  going := h.going
  ended := h.ended
  submitted hrow := by
    rw [← h.submitted hrow, List.append_assoc]
    exact congrArg (w.offered task ++ ·) (w.pipeline.waiting_perform task hc)
  delivered := (w.pipeline.delivered_perform task c).trans h.delivered
  status := (congrArg (·.get task) (w.pipeline.tasks_perform c)).trans h.status

/-- Every step keeps every task accounted for. -/
theorem perform {submitted : Task → List Delivery}
    (h : ∀ task, w.Accounts task (submitted task)) (act : Act) (task : Task) :
    (w.perform act).Accounts task (submitted task ++ act.submits w.pipeline task) := by
  have hsubmits (hact : act.isCall = false) : act.submits w.pipeline task = [] := by
    cases act with
    | call c hc => cases hact
    | _ => rfl
  -- a step of another task is of no concern to this one, but counts deliveries of its own kind:
  -- that is why all tasks have to be accounted for
  have hstep := w.step_perform act
  generalize w.perform act = next at hstep ⊢
  cases hstep with
  | call c hc => exact (h task).call hc
  | idle _ hact =>
    rw [hsubmits hact, List.append_nil]
    exact h task
  | begin now other hidle =>
    rw [hsubmits rfl, List.append_nil]
    by_cases hother : task = other
    · subst hother
      exact (h task).begin hidle now
    · exact (h task).of_same (Pipeline.sameFor_beginCycle hother w.pipeline now)
        (PerTask.get_set_of_ne _ hother _) rfl
  | settle other o outcome hgoing =>
    rw [hsubmits rfl, List.append_nil]
    by_cases hother : task = other
    · subst hother
      exact (h task).settle hgoing outcome
    · obtain ⟨htask, hfollows⟩ := (h other).going o hgoing
      exact (h task).of_same
        (Pipeline.sameFor_settle hother w.pipeline htask hfollows outcome)
        (PerTask.get_set_of_ne _ hother _) rfl
  | close other o hgoing hpending =>
    rw [hsubmits rfl, List.append_nil]
    by_cases hother : task = other
    · subst hother
      exact (h task).close hgoing hpending
    · obtain ⟨htask, -⟩ := (h other).going o hgoing
      have hpipeline : (w.close other o).pipeline = w.pipeline.close other o.cycle.result := by
        rw [← htask]
        rfl
      exact (h task).of_same
        (hpipeline ▸ Pipeline.sameFor_close hother w.pipeline o.cycle.result)
        (PerTask.get_set_of_ne _ hother _) (PerTask.get_set_of_ne _ hother _)

/-- The cycles of a task that delivers in a row do so in order. -/
theorem inOrder (h : w.Accounts task submitted) (hrow : task.endsAtFault = true) :
    ∀ t ∈ w.transcripts task, t.InOrder := by
  intro t ht
  rcases List.mem_append.mp ht with hended | hgoing
  · obtain ⟨e, he, rfl⟩ := List.mem_map.mp hended
    exact ((h.ended e he).inRow hrow).inOrder
  · cases ho : w.going.get task with
    | none =>
      rw [ho] at hgoing
      cases hgoing
    | some o =>
      rw [ho] at hgoing
      obtain rfl : t = o.transcript := by simpa using hgoing
      obtain ⟨htask, hfollows⟩ := h.going o ho
      exact (hfollows.inRow (by rw [htask, hrow])).inOrder

end Accounts

/-- The accounts of a fresh pipeline are empty. -/
theorem accounts_fresh (settings : Settings) (task : Task) :
    (fresh settings).Accounts task [] := by
  cases task <;> exact ⟨nofun, nofun, fun _ => rfl, rfl, rfl⟩

/-- Along every run every task stays accounted for. -/
theorem Accounts.after {w : Dispatch} {submitted : Task → List Delivery}
    (h : ∀ task, w.Accounts task (submitted task)) (acts : List Act) (task : Task) :
    (w.after acts).Accounts task (submitted task ++ w.submitted task acts) := by
  induction acts using List.reverseRecOn generalizing task with
  | nil =>
    rw [Dispatch.submitted, List.append_nil]
    exact h task
  | append_singleton acts act ih =>
    rw [after_concat, submitted_concat, ← List.append_assoc]
    exact Accounts.perform ih act task

/-- The accounts are kept by every run of acts. -/
theorem accounts_after (settings : Settings) (acts : List Act) (task : Task) :
    ((fresh settings).after acts).Accounts task ((fresh settings).submitted task acts) :=
  Accounts.after (accounts_fresh settings) acts task

end Dispatch

/-! ## In a row -/

/-- What was not accepted of what a cycle in a row began with. -/
def Transcript.left (t : Transcript) : List Delivery :=
  t.offered.drop t.accepted.length

/-- What was accepted and what is left make up what a cycle began with. -/
theorem Transcript.InOrder.accepted_append_left {t : Transcript} (h : t.InOrder) :
    t.accepted ++ t.left = t.offered :=
  List.prefix_iff_eq_append.mp (h.1.trans h.2)

/-- Only a cycle that failed left anything. -/
theorem EndsInRow.left_eq_nil_iff {task : Task} {t : Transcript} {result : Except String Nat}
    (h : EndsInRow task t result) :
    t.left = [] ↔ (⟨t, result⟩ : EndedCycle).failure? = none := by
  unfold Transcript.left
  cases h with
  | delivered _ haccepted => simp [haccepted, EndedCycle.failure?]
  | failed before d after fault hoffered _ haccepted =>
    simp [haccepted, hoffered, EndedCycle.failure?]

/-- A whole cycle of a task that delivers in a row, from one pipeline to the next. -/
structure Pipeline.CycleInRow (task : Task) (p p' : Pipeline) (t : Transcript)
    (result : Except String Nat) : Prop where
  offered : t.offered = p.waiting task
  ends : EndsInRow task t result
  waiting : p'.waiting task = []
  delivered : p'.health.delivered task = p.health.delivered task + t.accepted.length
  status : p'.tasks.get task = (p.tasks.get task).finish result

/-- That a cycle began makes no difference to the record when it has ended. -/
theorem TaskStatus.finish_start (s : TaskStatus) (result : Except String Nat) :
    s.start.finish result = s.finish result := by
  cases result <;> rfl

/-- A whole cycle takes all that waits, whatever its collaborator answers. -/
theorem Pipeline.exists_cycleInRow {σ : Type} (answer : σ → Delivery → σ × Outcome) (p : Pipeline)
    (now : Instant) {task : Task} (hrow : task.endsAtFault = true) (s : σ) :
    ∃ t : Transcript,
      Converses answer s t.handed (p.runCycle answer now task s).2.1 ∧
      CycleInRow task p (p.runCycle answer now task s).1 t
        (p.runCycle answer now task s).2.2 := by
  obtain ⟨handed, hconverses, hends, hpipeline⟩ := exists_runCycle answer p now task s
  have hinRow := hends.inRow hrow
  rw [p.offers_of_endsAtFault now hrow] at hinRow
  refine ⟨⟨p.waiting task, handed⟩, hconverses, rfl, hinRow, ?_, ?_, ?_⟩
  · rw [hpipeline]
    exact (p.waiting_beginCycle task task now).trans (if_pos rfl)
  · have hours : ∀ d ∈ handed.filterMap Transcript.accepted?, d.task = task := by
      intro d hd
      have hoffered : d ∈ p.waiting task :=
        (hinRow.inOrder.1.trans hinRow.inOrder.2).subset hd
      rw [← p.offers_of_endsAtFault now hrow] at hoffered
      exact task_of_mem_offers hoffered
    rw [hpipeline, delivered_close, countAccepted,
      delivered_foldl_countDelivery task task hours, delivered_beginCycle, if_pos rfl]
    rfl
  · have hstarted : (p.beginCycle now task).1.tasks.get task = (p.tasks.get task).start := by
      rw [tasks_beginCycle, PerTask.get_set_self]
    rw [hpipeline, ← TaskStatus.finish_start, ← hstarted]
    exact PerTask.get_set_self ..

namespace Dispatch

/-- What was submitted to a task was delivered in a row. -/
structure DeliversInRow (w : Dispatch) (task : Task) (submitted : List Delivery) : Prop where
  /-- Each cycle handed over what it began with, in order, up to the first failure. -/
  ended : ∀ e ∈ w.ended.get task, EndsInRow task e.transcript e.result
  /-- Only a cycle that failed left anything. -/
  failed : ∀ e ∈ w.ended.get task, e.transcript.left = [] ↔ e.failure? = none
  /-- What was submitted was accepted or left in a cycle, or still waits, in this order. -/
  split : (w.transcripts task).flatMap (fun t => t.accepted ++ t.left) ++ w.pipeline.waiting task =
    submitted
  /-- Nothing was handed over twice, or before what was submitted earlier. -/
  handed : (w.handed task).Sublist submitted
  accepted : (w.accepted task).Sublist submitted
  delivered : w.pipeline.health.delivered task = (w.accepted task).length
  status : w.pipeline.tasks.get task = w.status task

/-- The accounts of a task that delivers in a row tell that it did. -/
theorem Accounts.deliversInRow {w : Dispatch} {task : Task} {submitted : List Delivery}
    (h : w.Accounts task submitted) (hrow : task.endsAtFault = true) :
    w.DeliversInRow task submitted := by
  have hsplit := h.submitted hrow
  -- what the cycles began with comes first in what was submitted
  have hoffered : (w.offered task).Sublist submitted := by
    rw [← hsplit]
    exact List.sublist_append_left _ _
  have hinOrder := h.inOrder hrow
  exact
    { ended := fun e he => (h.ended e he).inRow hrow
      failed := fun e he => ((h.ended e he).inRow hrow).left_eq_nil_iff
      split := by
        rw [← hsplit, List.flatMap_congr fun t ht => (hinOrder t ht).accepted_append_left]
        rfl
      handed := (List.Sublist.flatMap_right _ fun t ht => (hinOrder t ht).2.sublist).trans hoffered
      accepted := (List.Sublist.flatMap_right _ fun t ht =>
        ((hinOrder t ht).1.trans (hinOrder t ht).2).sublist).trans hoffered
      delivered := h.delivered
      status := h.status }

/-- **Deliveries in a row are in order, at most once and accounted for.** In every run of calls and
cycles, with any answers, each cycle of metric writes or of events hands over what waited when it
began, in order and up to the first failure, and its result tells how many were delivered or
dropped. What was submitted is accepted or left in a cycle or still waits, in the order of
submission; nothing is handed over twice; what counts as delivered was accepted; and the task
stands as its cycles ended. A cycle that begins leaves nothing waiting, and a whole cycle leaves
the task idle, whatever the pipeline. -/
theorem deliveries_accounted (settings : Settings) (acts : List Act) {task : Task}
    (hrow : task.endsAtFault = true) :
    ((fresh settings).after acts).DeliversInRow task ((fresh settings).submitted task acts) ∧
    (∀ now, ((fresh settings).after acts).going.get task = none →
      ∃ o, ((fresh settings).after (acts ++ [.start now task])).going.get task = some o ∧
        o.transcript = { offered := ((fresh settings).after acts).pipeline.waiting task } ∧
        ((fresh settings).after (acts ++ [.start now task])).pipeline.waiting task = []) ∧
    ∀ (σ : Type) (answer : σ → Delivery → σ × Outcome) (p : Pipeline) (now : Instant) (s : σ),
      ∃ t : Transcript,
        Converses answer s t.handed (p.runCycle answer now task s).2.1 ∧
        p.CycleInRow task (p.runCycle answer now task s).1 t
          (p.runCycle answer now task s).2.2 := by
  refine ⟨(accounts_after settings acts task).deliversInRow hrow, ?_, ?_⟩
  · intro now hidle
    rw [after_concat, perform_start hidle, begin]
    refine ⟨_, PerTask.get_set_self .., ?_, ?_⟩
    · rw [Pipeline.offers_of_endsAtFault _ now hrow]
    · exact (Pipeline.waiting_beginCycle _ task task now).trans (if_pos rfl)
  · intro σ answer p now s
    exact p.exists_cycleInRow answer now hrow s

/-- A reading of no value. -/
def reading (second : Nat) (h : second < 9223372036854775808 := by decide) : MetricWrite :=
  { datapoint := { id := "load", name := "load", path := "load.rrd" }, value := .notANumber,
    time := .ofSeconds second h }

/-- Three readings, the second of which is refused, and one that comes while they go out. -/
def readingActs : List Act :=
  [.call (.appendMetric (reading 1)) rfl, .call (.appendMetric (reading 2)) rfl,
    .call (.appendMetric (reading 3)) rfl, .start (.ofSeconds 10) .metricFlush,
    .answer .metricFlush (.ok ()), .call (.appendMetric (reading 4)) rfl,
    .answer .metricFlush (.error (.refused ["disk full"])), .finish .metricFlush]

/-- One reading counts as delivered, two are dropped, and the last one waits. -/
theorem readings_accounted :
    Task.metricFlush.endsAtFault = true ∧
      ((fresh {}).after readingActs).DeliversInRow .metricFlush
        ([reading 1, reading 2, reading 3, reading 4].map .metric) ∧
      ((fresh {}).after readingActs).accepted .metricFlush = [.metric (reading 1)] ∧
      ((fresh {}).after readingActs).pipeline.waiting .metricFlush = [.metric (reading 4)] ∧
      ((fresh {}).after readingActs).status .metricFlush =
        { runs := 1, errors := 1,
          lastError := some "metric write failed, dropped 2 of 3: disk full" } := by
  refine ⟨rfl, (deliveries_accounted {} readingActs rfl).1, ?_⟩
  decide +kernel

end Dispatch

end CloudCollector
