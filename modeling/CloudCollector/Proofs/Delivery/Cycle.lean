import CloudCollector.Delivery.Cycle
import CloudCollector.Proofs.Pipeline.Drain
import Mathlib.Algebra.GroupWithZero.Nat
import Mathlib.Data.List.Basic

/-!
# What a collaborator sees of a cycle

A transcript lists what a cycle began with, and what it handed over so far, each delivery with the
answer. A cycle that delivers in a row hands over what it began with, in that order, up to the
first failure; a cycle of batches hands over every one of them. The transcript decides the result.
-/

namespace CloudCollector

/-- What an answer adds to what was handed over: the current delivery, if there is one. -/
def Cycle.exchange (c : Cycle) (outcome : Outcome) : List (Delivery × Outcome) :=
  (c.current?.map fun d => (d, outcome)).toList

/-- What a collaborator sees of a cycle. -/
structure Transcript where
  /-- The deliveries that the cycle began with. -/
  offered : List Delivery
  /-- The deliveries that were handed over, each with its answer. -/
  handed : List (Delivery × Outcome) := []

namespace Transcript

/-- The delivery, if it was accepted. -/
def accepted? : Delivery × Outcome → Option Delivery
  | (d, .ok ()) => some d
  | (_, .error _) => none

/-- The delivery with its fault, if it failed. -/
def failed? : Delivery × Outcome → Option (Delivery × DeliveryFault)
  | (_, .ok ()) => none
  | (d, .error fault) => some (d, fault)

/-- The deliveries that were handed over, in their order. -/
def calls (t : Transcript) : List Delivery :=
  t.handed.map (·.1)

/-- The deliveries that were accepted, in their order. -/
def accepted (t : Transcript) : List Delivery :=
  t.handed.filterMap accepted?

/-- The deliveries that failed, in their order. -/
def failures (t : Transcript) : List (Delivery × DeliveryFault) :=
  t.handed.filterMap failed?

/-- The transcript after an answer to the current delivery of its cycle. -/
def settle (t : Transcript) (c : Cycle) (outcome : Outcome) : Transcript :=
  { t with handed := t.handed ++ c.exchange outcome }

/-! ## Deliveries in order -/

/-- What was accepted comes first in what was handed over, and this first in what the cycle began
with. -/
def InOrder (t : Transcript) : Prop :=
  t.accepted <+: t.calls ∧ t.calls <+: t.offered

section InOrder

variable {t : Transcript} {before after : List Delivery} {d : Delivery} {fault : DeliveryFault}

/-- Deliveries that were all accepted are the deliveries that were handed over. -/
theorem map_fst_ok : (before.map fun d => (d, (.ok () : Outcome))).map (·.1) = before := by
  rw [List.map_map]
  exact List.map_id before

/-- Deliveries that were all accepted are the accepted ones. -/
theorem filterMap_accepted?_ok :
    (before.map fun d => (d, .ok ())).filterMap accepted? = before :=
  List.filterMap_map.trans List.filterMap_some

/-- If all that was handed over was accepted, this is what was accepted. -/
theorem accepted_of_handed_ok (h : t.handed = before.map fun d => (d, .ok ())) :
    t.accepted = before := by
  rw [accepted, h, filterMap_accepted?_ok]

/-- If all that was handed over but the last one was accepted, what came before it was accepted. -/
theorem accepted_of_handed_error
    (h : t.handed = (before.map fun d => (d, .ok ())) ++ [(d, .error fault)]) :
    t.accepted = before := by
  rw [accepted, h, List.filterMap_append, filterMap_accepted?_ok]
  exact List.append_nil before

/-- A row of accepted deliveries is in order. -/
theorem InOrder.of_handed_ok (hoffered : t.offered = before ++ after)
    (hhanded : t.handed = before.map fun d => (d, .ok ())) : t.InOrder := by
  have hcalls : t.calls = before := by rw [calls, hhanded, map_fst_ok]
  rw [InOrder, hcalls, accepted_of_handed_ok hhanded, hoffered]
  exact ⟨List.prefix_refl before, List.prefix_append before after⟩

/-- A row of accepted deliveries is in order with a failed one behind. -/
theorem InOrder.of_handed_error (hoffered : t.offered = before ++ d :: after)
    (hhanded : t.handed = (before.map fun d => (d, .ok ())) ++ [(d, .error fault)]) :
    t.InOrder := by
  have hcalls : t.calls = before ++ [d] := by
    rw [calls, hhanded, List.map_append, map_fst_ok]
    rfl
  rw [InOrder, hcalls, accepted_of_handed_error hhanded,
    hoffered.trans (List.append_cons before d after)]
  exact ⟨List.prefix_append before [d], List.prefix_append _ after⟩

end InOrder

end Transcript

/-! ## How cycles end -/

/-- How the failure of a delivery in a row is told, with the number of those that are dropped. -/
def Task.tellDropped (task : Task) (dropped total : Nat) (fault : DeliveryFault) : String :=
  (if task = .metricFlush then "metric write" else "event send") ++ " failed, dropped " ++
    toString dropped ++ " of " ++ toString total ++ ": " ++ fault.message

/-- How a cycle ends that delivers in a row: everything is accepted, or all up to the first
failure, and what comes from there on is dropped. -/
inductive EndsInRow (task : Task) (t : Transcript) : Except String Nat → Prop where
  | delivered (hhanded : t.handed = t.offered.map fun d => (d, .ok ()))
      (haccepted : t.accepted = t.offered) :
    EndsInRow task t (.ok t.offered.length)
  | failed (before : List Delivery) (d : Delivery) (after : List Delivery) (fault : DeliveryFault)
      (hoffered : t.offered = before ++ d :: after)
      (hhanded : t.handed = (before.map fun d => (d, .ok ())) ++ [(d, .error fault)])
      (haccepted : t.accepted = before) :
    EndsInRow task t
      (.error (task.tellDropped (t.offered.length - before.length) t.offered.length fault))

/-- A cycle that delivered in a row did so in order. -/
theorem EndsInRow.inOrder {task : Task} {t : Transcript} {result : Except String Nat}
    (h : EndsInRow task t result) : t.InOrder := by
  cases h with
  | delivered hhanded _ => exact .of_handed_ok (List.append_nil _).symm hhanded
  | failed before d after fault hoffered hhanded _ => exact .of_handed_error hoffered hhanded

/-- How a cycle of batches ends: every batch is handed over, and the result counts the records, or
names the targets whose batches failed. -/
structure EndsEach (t : Transcript) (result : Except String Nat) : Prop where
  calls : t.calls = t.offered
  result_eq : result =
    if t.failures = [] then .ok (t.offered.map Delivery.items).sum
    else .error (toString t.failures.length ++ " of " ++ toString t.offered.length ++
      " model batches failed: " ++ ", ".intercalate (t.failures.filterMap fun x => x.1.target?))

/-- How a cycle of a task ends. -/
structure Task.Ends (task : Task) (t : Transcript) (result : Except String Nat) : Prop where
  inRow : task.endsAtFault = true → EndsInRow task t result
  each : task = .datamapFlush → EndsEach t result

/-- The task that makes a delivery. -/
def Delivery.task : Delivery → Task
  | metric _ => .metricFlush
  | event _ => .eventFlush
  | model _ => .datamapFlush

/-- A delivery in a row is one item. -/
theorem Delivery.items_of_endsAtFault (d : Delivery) (h : d.task.endsAtFault = true) :
    d.items = 1 := by
  cases d with
  | model batch => cases h
  | _ => rfl

namespace Cycle

/-! ## In a row -/

/-- Where a cycle stands that delivers in a row: all so far was accepted, or the last failed. -/
inductive InRow (c : Cycle) (t : Transcript) : Prop where
  | going (before : List Delivery) (hoffered : t.offered = before ++ c.pending)
      (hhanded : t.handed = before.map fun d => (d, .ok ())) (hfailures : c.failures = [])
      (hhandled : c.handled = before.length)
  | failed (before : List Delivery) (d : Delivery) (after : List Delivery) (fault : DeliveryFault)
      (hoffered : t.offered = before ++ d :: after)
      (hhanded : t.handed = (before.map fun d => (d, .ok ())) ++ [(d, .error fault)])
      (hpending : c.pending = []) (hfailures : c.failures = [(d, fault)])
      (hhandled : c.handled = before.length)

variable {c : Cycle} {t : Transcript}

/-- A cycle with nothing to come takes no answer. -/
theorem settle_of_pending_eq_nil (h : c.pending = []) (outcome : Outcome) :
    c.settle outcome = c := by
  rw [settle, h]

/-- A cycle with nothing to come hands nothing over. -/
theorem exchange_of_pending_eq_nil (h : c.pending = []) (outcome : Outcome) :
    c.exchange outcome = [] := by
  simp [exchange, current?, h]

/-- A cycle hands over its next delivery, with whatever answer. -/
theorem exchange_of_pending_eq_cons {d : Delivery} {rest : List Delivery}
    (h : c.pending = d :: rest) (outcome : Outcome) : c.exchange outcome = [(d, outcome)] := by
  simp [exchange, current?, h]

/-- A cycle that delivers in a row goes on to do so with each answer. -/
theorem InRow.settle (h : c.InRow t) (htask : c.task.endsAtFault = true)
    (hitems : ∀ d ∈ t.offered, d.items = 1) (outcome : Outcome) :
    (c.settle outcome).InRow (t.settle c outcome) := by
  cases hpending : c.pending with
  | nil =>
    rw [settle_of_pending_eq_nil hpending, Transcript.settle, exchange_of_pending_eq_nil hpending,
      List.append_nil]
    exact h
  | cons d rest =>
    cases h with
    | going before hoffered hhanded hfailures hhandled =>
      rw [hpending] at hoffered
      have hone : d.items = 1 := hitems d (by simp [hoffered])
      rw [Transcript.settle, exchange_of_pending_eq_cons hpending, hhanded]
      match outcome with
      | .ok () =>
        have hcycle : c.settle (.ok ()) =
            { c with pending := rest, handled := c.handled + d.items } := by
          rw [Cycle.settle, hpending]
        rw [hcycle]
        refine .going (before ++ [d]) ?_ ?_ hfailures ?_
        · simpa using hoffered
        · simp
        · simp [hhandled, hone]
      | .error fault =>
        have hcycle : c.settle (.error fault) =
            { c with pending := [], failures := [(d, fault)] } := by
          rw [Cycle.settle, hpending, htask, hfailures]
          rfl
        rw [hcycle]
        exact .failed before d rest fault hoffered rfl rfl rfl hhandled
    | failed _ _ _ _ _ _ hnil => exact absurd (hpending.symm.trans hnil) (List.cons_ne_nil d rest)

/-- A cycle that delivers in a row does so in order. -/
theorem InRow.inOrder (h : c.InRow t) : t.InOrder := by
  cases h with
  | going before hoffered hhanded _ _ => exact .of_handed_ok hoffered hhanded
  | failed before d after fault hoffered hhanded _ _ _ => exact .of_handed_error hoffered hhanded

/-- A cycle that delivers in a row ends as its transcript tells. -/
theorem InRow.endsInRow (h : c.InRow t) (htask : c.task.endsAtFault = true)
    (htotal : c.total = t.offered.length) (hpending : c.pending = []) :
    EndsInRow c.task t c.result := by
  cases h with
  | going before hoffered hhanded hfailures hhandled =>
    rw [hpending, List.append_nil] at hoffered
    have hresult : c.result = .ok t.offered.length := by
      rw [result, hfailures, hhandled, hoffered]
    rw [hresult]
    exact .delivered (hoffered ▸ hhanded) (hoffered ▸ Transcript.accepted_of_handed_ok hhanded)
  | failed before d after fault hoffered hhanded _ hfailures hhandled =>
    have hresult : c.result = .error
        (c.task.tellDropped (t.offered.length - before.length) t.offered.length fault) := by
      rw [result, hfailures]
      cases hkind : c.task with
      | metricFlush => simp [Cycle.tellDropped, Task.tellDropped, htotal, hhandled]
      | eventFlush => simp [Cycle.tellDropped, Task.tellDropped, htotal, hhandled]
      | datamapFlush => rw [hkind] at htask; cases htask
      | discovery => rw [hkind] at htask; cases htask
    rw [hresult]
    exact .failed before d after fault hoffered hhanded
      (Transcript.accepted_of_handed_error hhanded)

/-! ## Batches -/

/-- Where a cycle of batches stands. -/
structure Each (c : Cycle) (t : Transcript) : Prop where
  calls : t.calls ++ c.pending = t.offered
  failures : c.failures = t.failures
  handled : c.handled = (t.accepted.map Delivery.items).sum

/-- A cycle of batches goes on to hand over each of them with each answer. -/
theorem Each.settle (h : c.Each t) (htask : c.task.endsAtFault = false) (outcome : Outcome) :
    (c.settle outcome).Each (t.settle c outcome) := by
  cases hpending : c.pending with
  | nil =>
    rw [settle_of_pending_eq_nil hpending, Transcript.settle, exchange_of_pending_eq_nil hpending,
      List.append_nil]
    exact h
  | cons d rest =>
    have hcalls := h.calls
    rw [hpending] at hcalls
    rw [Transcript.settle, exchange_of_pending_eq_cons hpending]
    match outcome with
    | .ok () =>
      have hcycle : c.settle (.ok ()) =
          { c with pending := rest, handled := c.handled + d.items } := by
        rw [Cycle.settle, hpending]
      rw [hcycle]
      have haccepted : Transcript.accepted { t with handed := t.handed ++ [(d, .ok ())] } =
          t.accepted ++ [d] := List.filterMap_append
      have hfailures : Transcript.failures { t with handed := t.handed ++ [(d, .ok ())] } =
          t.failures := List.filterMap_append.trans (List.append_nil _)
      refine ⟨?_, h.failures.trans hfailures.symm, ?_⟩
      · simpa [Transcript.calls] using hcalls
      · simp [haccepted, h.handled]
    | .error fault =>
      have hcycle : c.settle (.error fault) =
          { c with pending := rest, failures := c.failures ++ [(d, fault)] } := by
        rw [Cycle.settle, hpending, htask]
        rfl
      rw [hcycle]
      have haccepted : Transcript.accepted { t with handed := t.handed ++ [(d, .error fault)] } =
          t.accepted := List.filterMap_append.trans (List.append_nil _)
      have hfailures : Transcript.failures { t with handed := t.handed ++ [(d, .error fault)] } =
          t.failures ++ [(d, fault)] := List.filterMap_append
      refine ⟨?_, ?_, h.handled.trans (by rw [haccepted])⟩
      · simpa [Transcript.calls] using hcalls
      · rw [hfailures, h.failures]

end Cycle

/-- Where nothing failed, everything was accepted. -/
theorem Transcript.accepted_eq_calls {t : Transcript} (h : t.failures = []) :
    t.accepted = t.calls := by
  unfold accepted calls
  rw [← List.filterMap_eq_map]
  refine List.filterMap_congr fun x hx => ?_
  obtain ⟨d, outcome⟩ := x
  cases outcome with
  | ok => rfl
  | error fault =>
    exact absurd (List.filterMap_eq_nil_iff.mp h (d, .error fault) hx) (by simp [failed?])

namespace Cycle

variable {c : Cycle} {t : Transcript}

/-- A cycle of batches ends as its transcript tells. -/
theorem Each.endsEach (h : c.Each t) (htask : c.task = .datamapFlush)
    (htotal : c.total = t.offered.length) (hpending : c.pending = []) :
    EndsEach t c.result := by
  have hcalls : t.calls = t.offered := by
    rw [← h.calls, hpending, List.append_nil]
  refine ⟨hcalls, ?_⟩
  rw [result, h.failures]
  split
  · next hnone => rw [if_pos hnone, h.handled, Transcript.accepted_eq_calls hnone, hcalls]
  · next failure rest hsome =>
    rw [if_neg (by rw [hsome]; exact List.cons_ne_nil _ _), htask]
    simp only [tellFailed, h.failures, hsome, htotal]

/-! ## Any cycle -/

/-- A cycle stands where its transcript says. -/
structure Follows (c : Cycle) (t : Transcript) : Prop where
  total : c.total = t.offered.length
  ours : ∀ d ∈ t.offered, d.task = c.task
  pending : ∀ d ∈ c.pending, d ∈ t.offered
  inRow : c.task.endsAtFault = true → c.InRow t
  each : c.task = .datamapFlush → c.Each t

/-- An answer does not change whose cycle it is. -/
theorem task_settle (c : Cycle) (outcome : Outcome) : (c.settle outcome).task = c.task := by
  unfold settle
  split
  · rfl
  · split <;> rfl

/-- An answer does not change how many items a cycle began with. -/
theorem total_settle (c : Cycle) (outcome : Outcome) : (c.settle outcome).total = c.total := by
  unfold settle
  split
  · rfl
  · split <;> rfl

/-- No delivery comes to a cycle while it goes on. -/
theorem mem_pending_of_settle {outcome : Outcome} {d : Delivery}
    (h : d ∈ (c.settle outcome).pending) : d ∈ c.pending := by
  unfold settle at h
  split at h
  · exact h
  · next first rest hpending =>
    rw [hpending]
    split at h
    · exact List.mem_cons_of_mem first h
    · cases hends : c.task.endsAtFault with
      | false => exact List.mem_cons_of_mem first (by simpa [hends] using h)
      | true => simp [hends] at h

/-- A cycle keeps to its transcript with every answer. -/
theorem Follows.settle (h : c.Follows t) (outcome : Outcome) :
    (c.settle outcome).Follows (t.settle c outcome) where
  total := (total_settle c outcome).trans h.total
  ours d hd := (h.ours d hd).trans (task_settle c outcome).symm
  pending d hd := h.pending d (mem_pending_of_settle hd)
  inRow htask := by
    rw [task_settle] at htask
    exact (h.inRow htask).settle htask
      (fun d hd => d.items_of_endsAtFault (by rw [h.ours d hd, htask])) outcome
  each htask := by
    rw [task_settle] at htask
    exact (h.each htask).settle (by rw [htask]; rfl) outcome

/-- An answer accepts a delivery of the task, or none. -/
theorem Follows.task_of_mem_exchange (h : c.Follows t) {outcome : Outcome} {d : Delivery}
    (hd : d ∈ (c.exchange outcome).filterMap Transcript.accepted?) : d.task = c.task := by
  cases hpending : c.pending with
  | nil =>
    rw [exchange_of_pending_eq_nil hpending] at hd
    cases hd
  | cons first rest =>
    have hours : first.task = c.task :=
      h.ours first (h.pending first (by rw [hpending]; exact List.mem_cons_self))
    rw [exchange_of_pending_eq_cons hpending] at hd
    match outcome with
    | .ok () =>
      obtain rfl : d = first := List.mem_singleton.mp hd
      exact hours
    | .error _ => cases hd

/-- What becomes of a transcript when its cycle ends. -/
theorem Follows.ends (h : c.Follows t) (hpending : c.pending = []) : c.task.Ends t c.result where
  inRow htask := (h.inRow htask).endsInRow htask h.total hpending
  each htask := (h.each htask).endsEach htask h.total hpending

end Cycle

/-! ## From the beginning of a cycle to its end -/

namespace Pipeline

/-- What waits for a task that delivers in a row. -/
def waiting (p : Pipeline) : Task → List Delivery
  | .metricFlush => p.metrics.map .metric
  | .eventFlush => p.events.map .event
  | .datamapFlush | .discovery => []

/-- What waits for a task depends on the metric writes and the events that wait. -/
theorem waiting_congr {p q : Pipeline} (hmetrics : p.metrics = q.metrics)
    (hevents : p.events = q.events) (task : Task) : p.waiting task = q.waiting task := by
  cases task with
  | metricFlush => exact congrArg (List.map Delivery.metric) hmetrics
  | eventFlush => exact congrArg (List.map Delivery.event) hevents
  | datamapFlush => rfl
  | discovery => rfl

/-- What a cycle of a task begins with if it begins now. -/
def offers (p : Pipeline) (now : Instant) : Task → List Delivery
  | .datamapFlush => (p.drain now).2.map .model
  | task => p.waiting task

section BeginCycle

variable (p : Pipeline) (now : Instant) {task : Task}

/-- A task that delivers in a row begins with what waits for it. -/
theorem offers_of_endsAtFault (htask : task.endsAtFault = true) :
    p.offers now task = p.waiting task := by
  cases task with
  | datamapFlush => cases htask
  | _ => rfl

/-- A cycle belongs to the task that begins it. -/
theorem task_beginCycle (task : Task) : (p.beginCycle now task).2.task = task := by
  cases task <;> rfl

/-- A cycle begins with what the pipeline has to offer to its task. -/
theorem pending_beginCycle (task : Task) :
    (p.beginCycle now task).2.pending = p.offers now task := by
  cases task with
  | datamapFlush =>
    -- marking the task as active does not change the batches
    have hbatches : ((p.setTask .datamapFlush (p.tasks.get .datamapFlush).start).drain now).2 =
        (p.drain now).2 := by
      rw [batches_drain, batches_drain]
      rfl
    exact congrArg (List.map Delivery.model) hbatches
  | _ => rfl

/-- A cycle begins with as many items as it has deliveries. -/
theorem total_beginCycle (task : Task) :
    (p.beginCycle now task).2.total = (p.beginCycle now task).2.pending.length := by
  cases task <;> rfl

variable {p now} in
/-- What is offered to a task is for that task. -/
theorem task_of_mem_offers {d : Delivery} (h : d ∈ p.offers now task) : d.task = task := by
  cases task with
  | metricFlush =>
    obtain ⟨w, -, rfl⟩ := List.mem_map.mp h
    rfl
  | eventFlush =>
    obtain ⟨e, -, rfl⟩ := List.mem_map.mp h
    rfl
  | datamapFlush =>
    obtain ⟨batch, -, rfl⟩ := List.mem_map.mp h
    rfl
  | discovery => cases h

/-- A cycle begins with what its task offers, and has handed over nothing. -/
theorem follows_beginCycle (task : Task) :
    (p.beginCycle now task).2.Follows { offered := p.offers now task } where
  total := by rw [total_beginCycle, pending_beginCycle]
  ours d hd := by rw [task_of_mem_offers hd, task_beginCycle]
  pending d hd := by rwa [pending_beginCycle] at hd
  inRow htask := by
    rw [task_beginCycle] at htask
    refine .going [] (by rw [pending_beginCycle, List.nil_append]) rfl ?_ ?_ <;>
      cases task <;> first | rfl | cases htask
  each htask := by
    rw [task_beginCycle] at htask
    subst htask
    exact ⟨p.pending_beginCycle now .datamapFlush, rfl, rfl⟩

end BeginCycle

/-- The pipeline with deliveries counted that were accepted. -/
def countAccepted (p : Pipeline) (handed : List (Delivery × Outcome)) : Pipeline :=
  { p with
    health := (handed.filterMap Transcript.accepted?).foldl Health.countDelivery p.health }

/-- An answer counts the current delivery if it was accepted. -/
theorem settle_fst (p : Pipeline) (c : Cycle) (outcome : Outcome) :
    (p.settle c outcome).1 = p.countAccepted (c.exchange outcome) := by
  cases hpending : c.pending with
  | nil =>
    have hcurrent : c.current? = none := by rw [Cycle.current?, hpending, List.head?_nil]
    rw [Cycle.exchange_of_pending_eq_nil hpending]
    simp only [Pipeline.settle, hcurrent]
    rfl
  | cons d rest =>
    have hcurrent : c.current? = some d := by rw [Cycle.current?, hpending, List.head?_cons]
    rw [Cycle.exchange_of_pending_eq_cons hpending]
    match outcome with
    | .ok () =>
      simp only [Pipeline.settle, hcurrent]
      rfl
    | .error _ =>
      simp only [Pipeline.settle, hcurrent]
      rfl

/-- Deliveries count one after the other. -/
theorem countAccepted_append (p : Pipeline) (first second : List (Delivery × Outcome)) :
    p.countAccepted (first ++ second) = (p.countAccepted first).countAccepted second := by
  simp only [countAccepted, List.filterMap_append, List.foldl_append]

end Pipeline

/-- What a collaborator in state `s` answers to deliveries one after the other, and the state that
this leaves it in. -/
def Converses {σ : Type} (answer : σ → Delivery → σ × Outcome) :
    σ → List (Delivery × Outcome) → σ → Prop
  | s, [], s' => s = s'
  | s, (d, outcome) :: rest, s' =>
    (answer s d).2 = outcome ∧ Converses answer (answer s d).1 rest s'

namespace Pipeline

variable {σ : Type} {answer : σ → Delivery → σ × Outcome}

/-- A cycle that is carried on to its last delivery keeps to its transcript. -/
theorem exists_deliverAll (answer : σ → Delivery → σ × Outcome) (p : Pipeline) {c : Cycle} (s : σ)
    {t : Transcript} (h : c.Follows t) :
    ∃ handed, (deliverAll answer p c s).2.1.Follows { t with handed := t.handed ++ handed } ∧
      (deliverAll answer p c s).2.1.task = c.task ∧
      (deliverAll answer p c s).2.1.pending = [] ∧
      Converses answer s handed (deliverAll answer p c s).2.2 ∧
      (deliverAll answer p c s).1 = p.countAccepted handed := by
  fun_induction deliverAll answer p c s generalizing t with
  | case1 p c s hpending => exact ⟨[], by simpa using h, rfl, hpending, rfl, rfl⟩
  | case2 p c s d rest hpending s' outcome hanswer _ ih =>
    obtain ⟨handed, hfollows, htask, hdone, hconverses, hcounted⟩ := ih (h.settle outcome)
    rw [Transcript.settle, Cycle.exchange_of_pending_eq_cons hpending] at hfollows
    refine ⟨(d, outcome) :: handed, ?_, htask.trans (c.task_settle outcome), hdone, ?_, ?_⟩
    · simpa using hfollows
    · rw [Converses, hanswer]
      exact ⟨rfl, hconverses⟩
    · rw [hcounted, settle_fst, Cycle.exchange_of_pending_eq_cons hpending,
        ← countAccepted_append]
      rfl

/-- Ends a cycle of a task with its result. -/
def close (p : Pipeline) (task : Task) (result : Except String Nat) : Pipeline :=
  { p.setTask task ((p.tasks.get task).finish result) with
    health := countCycle p.health task result }

/-- The end of a cycle closes its task with the result of the cycle. -/
theorem endCycle_eq_close (p : Pipeline) (c : Cycle) : p.endCycle c = p.close c.task c.result :=
  rfl

/-- A whole cycle begins, delivers everything and ends. -/
theorem runCycle_eq (answer : σ → Delivery → σ × Outcome) (p : Pipeline) (now : Instant)
    (task : Task) (s : σ) :
    p.runCycle answer now task s =
      let x := deliverAll answer (p.beginCycle now task).1 (p.beginCycle now task).2 s
      (x.1.endCycle x.2.1, x.2.2, x.2.1.result) := rfl

/-- A whole cycle hands over what its task offers at the beginning as its collaborator answers, and
ends as this tells. -/
theorem exists_runCycle (answer : σ → Delivery → σ × Outcome) (p : Pipeline) (now : Instant)
    (task : Task) (s : σ) :
    ∃ handed,
      Converses answer s handed (p.runCycle answer now task s).2.1 ∧
      task.Ends { offered := p.offers now task, handed } (p.runCycle answer now task s).2.2 ∧
      (p.runCycle answer now task s).1 = ((p.beginCycle now task).1.countAccepted handed).close
        task (p.runCycle answer now task s).2.2 := by
  obtain ⟨handed, hfollows, htask, hdone, hconverses, hcounted⟩ :=
    exists_deliverAll answer (p.beginCycle now task).1 s (p.follows_beginCycle now task)
  rw [task_beginCycle] at htask
  have hends := hfollows.ends hdone
  rw [htask, List.nil_append] at hends
  rw [runCycle_eq]
  refine ⟨handed, hconverses, hends, ?_⟩
  dsimp only
  rw [endCycle_eq_close, hcounted, htask]

end Pipeline

end CloudCollector
