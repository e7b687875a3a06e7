import CloudCollector.Delivery.Cycle
import CloudCollector.Http.Service
import CloudCollector.Proofs.Pipeline.Consistency

/-!
# Whatever a pipeline lives through

Besides calls, a pipeline serves requests and goes through the cycles of the tasks. To its targets
these are calls as well: a request amounts to a run of calls, a cycle begins with one, and answers
and counters reach no target. So what holds of each target after any run of calls holds in every
pipeline that anything leads to.
-/

namespace CloudCollector

/-- The call that a cycle of a task begins with. -/
def Task.call (now : Instant) : Task → Pipeline.Call
  | .metricFlush => .takeMetrics
  | .eventFlush => .takeEvents
  | .datamapFlush => .drain now
  | .discovery => .discover now

namespace Pipeline

/-- Two pipelines are the same at every target. -/
def SameTargets (p q : Pipeline) : Prop :=
  ∀ target, SameAt target p q

namespace SameTargets

variable {p q : Pipeline}

/-- A pipeline agrees with itself at all targets. -/
theorem refl (p : Pipeline) : SameTargets p p :=
  fun target => .refl target p

/-- Agreement at all targets passes on from pipeline to pipeline. -/
theorem trans {r : Pipeline} (h : SameTargets p q) (h' : SameTargets q r) : SameTargets p r :=
  fun target => (h target).trans (h' target)

/-- Pipelines that agree at all targets still do after a call. -/
theorem perform (h : SameTargets p q) (call : Call) :
    SameTargets (p.perform call) (q.perform call) :=
  fun target => (h target).perform call

/-- Pipelines that agree at all targets still do after a run. -/
theorem after (h : SameTargets p q) (calls : List Call) :
    SameTargets (p.after calls) (q.after calls) := by
  induction calls generalizing p q with
  | nil => exact h
  | cons call rest ih => exact ih (h.perform call)

end SameTargets

/-- Counters and the standing of the tasks reach no target. -/
theorem sameTargets_of_counters (p : Pipeline) (health : Health) (tasks : PerTask TaskStatus) :
    SameTargets { p with health, tasks } p :=
  fun _ => ⟨rfl, rfl, rfl⟩

/-- A cycle begins with the call of its task. -/
theorem beginCycle_fst (p : Pipeline) (now : Instant) (task : Task) :
    (p.beginCycle now task).1 =
      (p.setTask task (p.tasks.get task).start).perform (task.call now) := by
  cases task <;> rfl

/-! ## Requests as calls -/

/-- The pipeline `q` is what a run of arrivals makes of `p`. -/
def Arrives (p q : Pipeline) : Prop :=
  ∃ calls, (∀ call ∈ calls, call.isArrival = true) ∧ q = p.after calls

namespace Arrives

variable {p q : Pipeline}

/-- Nothing need arrive. -/
theorem refl (p : Pipeline) : Arrives p p :=
  ⟨[], by simp, rfl⟩

/-- A single arrival is a run of arrivals. -/
theorem single {call : Call} (h : call.isArrival = true) (p : Pipeline) :
    Arrives p (p.perform call) :=
  ⟨[call], by simpa using h, rfl⟩

/-- Arrivals may follow each other. -/
theorem trans {r : Pipeline} (h : Arrives p q) (h' : Arrives q r) : Arrives p r := by
  obtain ⟨first, hfirst, rfl⟩ := h
  obtain ⟨second, hsecond, rfl⟩ := h'
  refine ⟨first ++ second, fun call hcall => ?_, (after_append p first second).symm⟩
  exact (List.mem_append.mp hcall).elim (hfirst call) (hsecond call)

end Arrives

section Requests

variable (reader : ByteArray → Option Json) (p : Pipeline) (now : Instant) (target : String)
  (r : Http.Request)

/-- Refusals are counted, and nothing else. -/
theorem exists_answerIngest_eq (x : Pipeline × Except Http.Rejection Unit) :
    ∃ health, (Http.answerIngest x).1 = { x.1 with health } := by
  obtain ⟨q, result⟩ := x
  cases result with
  | ok _ => exact ⟨q.health, rfl⟩
  | error rejection => exact ⟨q.health.reject rejection.reason, rfl⟩

/-- Samples that are posted arrive as one call, or not at all. -/
theorem arrives_takeSamples : Arrives p (Http.takeSamples reader p now target r).1 := by
  unfold Http.takeSamples
  split
  · exact .refl p
  · split
    · exact .refl p
    · next samples _ =>
      have hcall : (Call.ingestSamples target now samples).isArrival = true := rfl
      exact .single hcall p

/-- Events that are posted arrive one after the other, up to the first that is refused. -/
theorem arrives_takeEach (events : List Event) :
    Arrives p (Http.takeEach now target events p).1 := by
  induction events generalizing p with
  | nil => exact .refl p
  | cons e events ih =>
    have hcall : (Call.ingestEvent target now e).isArrival = true := rfl
    have hfirst : Arrives p (p.ingestEvent target now e).1 := .single hcall p
    unfold Http.takeEach
    split
    · next q _ heq =>
      rw [heq] at hfirst
      exact hfirst.trans (ih q)
    · next q _ heq =>
      rw [heq] at hfirst
      exact hfirst

/-- Events that are posted arrive one after the other, or not at all. -/
theorem arrives_takeEvents : Arrives p (Http.takeEvents reader p now target r).1 := by
  unfold Http.takeEvents
  split
  · exact .refl p
  · split
    · exact .refl p
    · next events _ => exact arrives_takeEach p now target events

/-- A configuration that is put arrives as one push, or not at all. -/
theorem arrives_putConfig : Arrives p (Http.putConfig p target r).1 := by
  unfold Http.putConfig
  split
  · exact .refl p
  · dsimp only
    split
    · exact .refl p
    · exact .refl p
    · next config _ =>
      have hcall : (Call.applyConfig target config).isArrival = true := rfl
      have hpush : Arrives p (p.applyConfig target config).1 := .single hcall p
      split <;> next heq => rwa [heq] at hpush

/-- A request for a target amounts to a run of arrivals, and may be counted. -/
theorem exists_arrives_serveTarget (route : Http.Route) :
    ∃ q health, Arrives p q ∧
      (Http.serveTarget reader p now r route target).1 = { q with health } := by
  have hnothing : ∃ q health, Arrives p q ∧ p = { q with health } := ⟨p, p.health, .refl p, rfl⟩
  unfold Http.serveTarget
  split
  · split
    · exact hnothing
    · obtain ⟨health, hcounted⟩ := exists_answerIngest_eq (Http.takeSamples reader p now target r)
      exact ⟨_, health, arrives_takeSamples reader p now target r, hcounted⟩
  · split
    · exact hnothing
    · obtain ⟨health, hcounted⟩ := exists_answerIngest_eq (Http.takeEvents reader p now target r)
      exact ⟨_, health, arrives_takeEvents reader p now target r, hcounted⟩
  · split
    · have hcall : (Call.removeTarget target).isArrival = true := rfl
      exact ⟨_, _, .single hcall p, rfl⟩
    · split
      · exact hnothing
      · exact ⟨_, _, arrives_putConfig p target r, rfl⟩

/-- A request amounts to a run of arrivals, and may be counted. -/
theorem exists_arrives_serveWith :
    ∃ q health, Arrives p q ∧ (Http.serveWith reader p now r).1 = { q with health } := by
  have hnothing : ∃ q health, Arrives p q ∧ p = { q with health } := ⟨p, p.health, .refl p, rfl⟩
  unfold Http.serveWith
  split
  · exact hnothing
  · split
    · exact hnothing
    · split
      · exact hnothing
      · split
        · exact hnothing
        · next target _ => exact exists_arrives_serveTarget reader p now target r _

/-- To the targets a request amounts to a run of calls. -/
theorem exists_sameTargets_serveWith :
    ∃ calls, SameTargets (Http.serveWith reader p now r).1 (p.after calls) := by
  obtain ⟨q, health, ⟨calls, -, rfl⟩, hserve⟩ := exists_arrives_serveWith reader p now r
  exact ⟨calls, hserve ▸ sameTargets_of_counters (p.after calls) health (p.after calls).tasks⟩

end Requests

/-! ## Reachable pipelines -/

/-- What calls, requests and the steps of any cycles lead to from a fresh pipeline, in any order
and at any times, however the documents in requests are read. -/
inductive Reachable : Pipeline → Prop where
  | fresh (settings : Settings) : Reachable (fresh settings)
  | call {p : Pipeline} (h : Reachable p) (call : Call) : Reachable (p.perform call)
  | request {p : Pipeline} (h : Reachable p) (reader : ByteArray → Option Json) (now : Instant)
    (r : Http.Request) : Reachable (Http.serveWith reader p now r).1
  | beginCycle {p : Pipeline} (h : Reachable p) (now : Instant) (task : Task) :
    Reachable (p.beginCycle now task).1
  | settle {p : Pipeline} (h : Reachable p) (c : Cycle) (outcome : Outcome) :
    Reachable (p.settle c outcome).1
  | endCycle {p : Pipeline} (h : Reachable p) (c : Cycle) : Reachable (p.endCycle c)

namespace Reachable

variable {p : Pipeline}

/-- What is reachable stays so after a run of calls. -/
theorem after (h : p.Reachable) (calls : List Call) : (p.after calls).Reachable := by
  induction calls generalizing p with
  | nil => exact h
  | cons call rest ih => exact ih (h.call call)

/-- At its targets, a reachable pipeline is what calls alone lead to. -/
theorem exists_sameTargets_after (h : p.Reachable) :
    ∃ settings calls, SameTargets p ((Pipeline.fresh settings).after calls) := by
  induction h with
  | fresh settings => exact ⟨settings, [], .refl _⟩
  | @call p h call ih =>
    obtain ⟨settings, calls, hsame⟩ := ih
    exact ⟨settings, calls ++ [call], by rw [after_concat]; exact hsame.perform call⟩
  | @request p h reader now r ih =>
    obtain ⟨settings, calls, hsame⟩ := ih
    obtain ⟨further, hserve⟩ := exists_sameTargets_serveWith reader p now r
    refine ⟨settings, calls ++ further, ?_⟩
    rw [after_append]
    exact hserve.trans (hsame.after further)
  | @beginCycle p h now task ih =>
    obtain ⟨settings, calls, hsame⟩ := ih
    refine ⟨settings, calls ++ [task.call now], ?_⟩
    rw [after_concat, beginCycle_fst]
    exact (((sameTargets_of_counters p p.health _).trans hsame).perform (task.call now))
  | @settle p h c outcome ih =>
    obtain ⟨settings, calls, hsame⟩ := ih
    exact ⟨settings, calls, (sameTargets_of_counters p _ p.tasks).trans hsame⟩
  | @endCycle p h c ih =>
    obtain ⟨settings, calls, hsame⟩ := ih
    exact ⟨settings, calls, (sameTargets_of_counters p _ _).trans hsame⟩

/-- At each target, the stores of a reachable pipeline are in step. -/
theorem exists_consistentAt (h : p.Reachable) (target : String) :
    ∃ pushed, p.ConsistentAt target pushed := by
  obtain ⟨settings, calls, hsame⟩ := h.exists_sameTargets_after
  exact ⟨_, (consistentAt_after settings target calls).congr (hsame target)⟩

/-- A configured target has a name. -/
theorem ne_of_hasTarget (h : p.Reachable) {target : String}
    (hconfigured : p.hasTarget target = true) :
    target ≠ "" := by
  obtain ⟨pushed, hconsistent⟩ := h.exists_consistentAt target
  obtain ⟨state, hstate, -⟩ := hconsistent.configured hconfigured
  exact hconsistent.named state hstate

end Reachable

end Pipeline

end CloudCollector
