import CloudCollector.Proofs.Delivery.Cycle
import CloudCollector.Proofs.Pipeline.Reachable
import CloudCollector.Proofs.Pipeline.Waiting

/-!
# What a pipeline stores

Everything that a pipeline does follows from its settings and its stores: what is known about the
targets, their states, and what waits for delivery. Counters and the standing of the tasks have no
say in it. So pipelines with the same stores do the same, and answers to deliveries, which only
count, do not tell them apart.
-/

namespace CloudCollector.Pipeline

/-- Two pipelines have the same settings and stores. -/
structure SameStores (p q : Pipeline) : Prop where
  settings : p.settings = q.settings
  registry : p.registry = q.registry
  targets : p.targets = q.targets
  metrics : p.metrics = q.metrics
  events : p.events = q.events

/-- Pipelines that are the same at every target have the same stores if the same waits in them. -/
theorem SameTargets.sameStores {p q : Pipeline} (h : SameTargets p q)
    (hmetrics : p.metrics = q.metrics) (hevents : p.events = q.events) : SameStores p q where
  settings := (h "").settings
  registry := congrArg Registry.mk (Dict.ext_get? fun target => (h target).known)
  targets := Dict.ext_get? fun target => (h target).state
  metrics := hmetrics
  events := hevents

/-- Counters and the standing of the tasks are not stored. -/
theorem sameStores_of_counters (p : Pipeline) (health : Health) (tasks : PerTask TaskStatus) :
    SameStores { p with health, tasks } p :=
  ⟨rfl, rfl, rfl, rfl, rfl⟩

namespace SameStores

variable {p q : Pipeline}

/-- A pipeline has the same stores as itself. -/
theorem refl (p : Pipeline) : SameStores p p :=
  ⟨rfl, rfl, rfl, rfl, rfl⟩

/-- To have the same stores has no direction. -/
theorem symm (h : SameStores p q) : SameStores q p :=
  ⟨h.settings.symm, h.registry.symm, h.targets.symm, h.metrics.symm, h.events.symm⟩

/-- To have the same stores passes on from pipeline to pipeline. -/
theorem trans {r : Pipeline} (h : SameStores p q) (h' : SameStores q r) : SameStores p r :=
  ⟨h.settings.trans h'.settings, h.registry.trans h'.registry, h.targets.trans h'.targets,
    h.metrics.trans h'.metrics, h.events.trans h'.events⟩

/-- Pipelines with the same stores agree at all targets. -/
theorem sameTargets (h : SameStores p q) : SameTargets p q :=
  fun _ => ⟨h.settings, by rw [h.registry], by rw [h.targets]⟩

/-- With the same stores a call leads to the same metric writes. -/
theorem writes_eq (h : SameStores p q) (call : Call) : call.writes p = call.writes q := by
  cases call with
  | ingestSamples target now samples =>
    have htarget := h.sameTargets target
    rw [Call.writes, Call.writes, htarget.hasTarget_eq, htarget.writesOf_eq]
  | _ => rfl

/-- With the same stores a call sends on the same events. -/
theorem events_eq (h : SameStores p q) (call : Call) : call.events p = call.events q := by
  cases call with
  | ingestEvent target now e =>
    have htarget := h.sameTargets target
    rw [Call.events, Call.events, htarget.hasTarget_eq, htarget.interpret_eq]
  | _ => rfl

/-- A call does the same to the same stores. -/
theorem perform (h : SameStores p q) (call : Call) :
    SameStores (p.perform call) (q.perform call) := by
  refine (h.sameTargets.perform call).sameStores ?_ ?_
  · rw [(p.sameDelivery_perform call).metrics, (q.sameDelivery_perform call).metrics, h.metrics,
      h.writes_eq]
  · rw [(p.sameDelivery_perform call).events, (q.sameDelivery_perform call).events, h.events,
      h.events_eq]

/-- A drain releases the same from the same stores. -/
theorem batches_eq (h : SameStores p q) (now : Instant) : (p.drain now).2 = (q.drain now).2 := by
  rw [batches_drain, batches_drain, h.targets]

/-- A discovery finds the same in the same stores. -/
theorem discover_snd_eq (h : SameStores p q) (now : Instant) :
    (p.discover now).2 = (q.discover now).2 := by
  have hfound : p.discoverIn now = q.discoverIn now := by
    funext target
    exact (h.sameTargets target).discoverIn_eq now
  rw [discover, discover, hfound, h.targets]

/-- A task offers the same from the same stores. -/
theorem offers_eq (h : SameStores p q) (now : Instant) (task : Task) :
    p.offers now task = q.offers now task := by
  have hwaiting := waiting_congr h.metrics h.events task
  cases task with
  | datamapFlush => exact congrArg (List.map Delivery.model) (h.batches_eq now)
  | metricFlush => exact hwaiting
  | eventFlush => exact hwaiting
  | discovery => rfl

/-- The cycle that begins with the same stores is the same. -/
theorem beginCycle_snd_eq (h : SameStores p q) (now : Instant) (task : Task) :
    (p.beginCycle now task).2 = (q.beginCycle now task).2 := by
  have hwaiting := waiting_congr h.metrics h.events task
  cases task with
  | metricFlush => exact congrArg (Cycle.ofDeliveries .metricFlush) hwaiting
  | eventFlush => exact congrArg (Cycle.ofDeliveries .eventFlush) hwaiting
  | datamapFlush =>
    have hmarked (r : Pipeline) : SameStores
        (r.setTask .datamapFlush (r.tasks.get .datamapFlush).start) r :=
      sameStores_of_counters r r.health _
    exact congrArg (fun batches : List Batch => Cycle.ofDeliveries .datamapFlush
      (batches.map .model)) (((hmarked p).trans (h.trans (hmarked q).symm)).batches_eq now)
  | discovery =>
    exact congrArg (fun count => ({ task := .discovery, handled := count } : Cycle))
      (h.discover_snd_eq now)

end SameStores

section Steps

variable (p : Pipeline)

/-- An answer changes no store. -/
theorem sameStores_settle (c : Cycle) (outcome : Outcome) : SameStores (p.settle c outcome).1 p :=
  sameStores_of_counters p _ p.tasks

/-- The end of a cycle changes no store. -/
theorem sameStores_endCycle (c : Cycle) : SameStores (p.endCycle c) p :=
  sameStores_of_counters p _ _

/-- A cycle begins with the call of its task, as far as the stores are concerned. -/
theorem sameStores_beginCycle (now : Instant) (task : Task) :
    SameStores (p.beginCycle now task).1 (p.perform (task.call now)) := by
  rw [beginCycle_fst]
  exact (sameStores_of_counters p p.health _).perform (task.call now)

/-- A cycle begins alike with the same stores. -/
theorem SameStores.beginCycle_fst {p q : Pipeline} (h : SameStores p q) (now : Instant)
    (task : Task) : SameStores (p.beginCycle now task).1 (q.beginCycle now task).1 :=
  (p.sameStores_beginCycle now task).trans
    ((h.perform (task.call now)).trans (q.sameStores_beginCycle now task).symm)

variable {σ : Type} (answer : σ → Delivery → σ × Outcome)

/-- Whatever the answers, a cycle leaves the stores as its beginning does. -/
theorem sameStores_runCycle (now : Instant) (task : Task) (s : σ) :
    SameStores (p.runCycle answer now task s).1 (p.perform (task.call now)) := by
  obtain ⟨handed, -, -, hpipeline⟩ := exists_runCycle answer p now task s
  have hclosed : SameStores (p.runCycle answer now task s).1 (p.beginCycle now task).1 := by
    rw [hpipeline]
    exact sameStores_of_counters (p.beginCycle now task).1 _ _
  exact hclosed.trans (p.sameStores_beginCycle now task)

end Steps

end CloudCollector.Pipeline
