import CloudCollector.Proofs.Pipeline.Run

/-!
# What waits for delivery

A call puts metric writes or events last among those that wait, or takes all of them. Everything
else that a call does stays on the side of the targets: it neither touches what waits, nor how the
tasks stand, nor what counts as delivered.
-/

namespace CloudCollector.Pipeline

/-- Two pipelines are the same on the side of delivery. -/
structure SameDelivery (p q : Pipeline) : Prop where
  metrics : p.metrics = q.metrics
  events : p.events = q.events
  tasks : p.tasks = q.tasks
  metricWrites : p.health.metricWrites = q.health.metricWrites
  eventsSent : p.health.eventsSent = q.health.eventsSent
  modelBatches : p.health.modelBatches = q.health.modelBatches

namespace SameDelivery

/-- A pipeline agrees with itself on what waits. -/
theorem refl (p : Pipeline) : SameDelivery p p :=
  ⟨rfl, rfl, rfl, rfl, rfl, rfl⟩

/-- Agreement on what waits passes on from pipeline to pipeline. -/
theorem trans {p q r : Pipeline} (h : SameDelivery p q) (h' : SameDelivery q r) :
    SameDelivery p r :=
  ⟨h.metrics.trans h'.metrics, h.events.trans h'.events, h.tasks.trans h'.tasks,
    h.metricWrites.trans h'.metricWrites, h.eventsSent.trans h'.eventsSent,
    h.modelBatches.trans h'.modelBatches⟩

end SameDelivery

/-- The metric writes that a call puts last. -/
def Call.writes (p : Pipeline) : Call → List MetricWrite
  | .appendMetric w => [w]
  | .ingestSamples target now samples =>
    if p.hasTarget target then samples.flatMap (p.writesOf target now) else []
  | _ => []

/-- The events that a call puts last. -/
def Call.events (p : Pipeline) : Call → List Event
  | .appendEvent e => [e]
  | .ingestEvent target _ e => if p.hasTarget target then [(p.interpret target e).1] else []
  | _ => []

/-! ## Operations on targets -/

section Operations

variable (p : Pipeline) (target : String)

/-- A push does not touch what waits. -/
theorem sameDelivery_applyConfig (config : TargetConfig) :
    SameDelivery (p.applyConfig target config).1 p := by
  unfold applyConfig
  split <;> exact ⟨rfl, rfl, rfl, rfl, rfl, rfl⟩

/-- A record for a queue does not touch what waits. -/
theorem sameDelivery_appendRecord (now : Instant) (record : Option Record) :
    SameDelivery (p.appendRecord target now record).1 p := by
  cases record with
  | none => exact .refl p
  | some r =>
    simp only [appendRecord]
    split <;> exact ⟨rfl, rfl, rfl, rfl, rfl, rfl⟩

/-- A note does not touch what waits. -/
theorem sameDelivery_note (id : String) (now : Instant) :
    SameDelivery (p.note target id now).1 p := by
  unfold note
  split <;> exact ⟨rfl, rfl, rfl, rfl, rfl, rfl⟩

/-- Notes do not touch what waits. -/
theorem sameDelivery_noteAll (now : Instant) (ids : List String) :
    SameDelivery (noteAll target now ids p).1 p := by
  induction ids generalizing p with
  | nil => exact .refl p
  | cons id ids ih =>
    have hnote := p.sameDelivery_note target id now
    unfold noteAll
    split
    · next q heq =>
      rw [heq] at hnote
      exact (ih q).trans hnote
    · next heq =>
      rw [heq] at hnote
      exact hnote

/-- The drain of one target does not touch what waits. -/
theorem sameDelivery_drainTarget (configured : List String) (now : Instant)
    (progress : DrainProgress) :
    SameDelivery (p.drainTarget configured now progress target).1 p := by
  unfold drainTarget
  split
  · exact .refl p
  · exact ⟨rfl, rfl, rfl, rfl, rfl, rfl⟩

/-- To forget a target does not touch what waits. -/
theorem sameDelivery_prune : SameDelivery (p.prune target) p := by
  unfold prune
  split
  · split
    · exact ⟨rfl, rfl, rfl, rfl, rfl, rfl⟩
    · exact .refl p
  · exact .refl p

/-- To forget targets one after the other does not touch what waits. -/
theorem sameDelivery_foldl_prune (idle : List String) : SameDelivery (idle.foldl prune p) p := by
  induction idle generalizing p with
  | nil => exact .refl p
  | cons target idle ih => exact (ih (p.prune target)).trans (p.sameDelivery_prune target)

/-- The stages of a drain do not touch what waits. -/
theorem sameDelivery_stages (now : Instant) : SameDelivery (p.stages now).1 p := by
  have hdrained : ∀ (targets : List String) (x : Pipeline × DrainProgress), SameDelivery
      (targets.foldl (fun x name => x.1.drainTarget p.registry.targets.keys now x.2 name) x).1
      x.1 := by
    intro targets
    induction targets with
    | nil => exact fun x => .refl x.1
    | cons target targets ih =>
      exact fun x => (ih _).trans (x.1.sameDelivery_drainTarget target _ now x.2)
  exact hdrained p.targets.keys (p, {})

/-- A whole drain does not touch what waits: it releases records from other queues. -/
theorem sameDelivery_drain (now : Instant) : SameDelivery (p.drain now).1 p := by
  have hcount (q : Pipeline) : SameDelivery q.countTargets q := ⟨rfl, rfl, rfl, rfl, rfl, rfl⟩
  rw [drain_eq]
  exact (hcount _).trans ((sameDelivery_foldl_prune _ _).trans (p.sameDelivery_stages now))

end Operations

/-! ## Calls -/

section Calls

variable (p : Pipeline)

/-- Metric writes that are appended wait behind those that were there, in their order. -/
theorem sameDelivery_foldl_appendMetric (writes : List MetricWrite) :
    SameDelivery (writes.foldl appendMetric p) { p with metrics := p.metrics ++ writes } := by
  induction writes generalizing p with
  | nil => exact ⟨(List.append_nil _).symm, rfl, rfl, rfl, rfl, rfl⟩
  | cons w writes ih =>
    refine (ih (p.appendMetric w)).trans ⟨?_, rfl, rfl, rfl, rfl, rfl⟩
    exact List.append_assoc p.metrics [w] writes

/-- Of samples, just their metric writes join what waits. -/
theorem sameDelivery_ingestSamples (target : String) (now : Instant) (samples : List Sample) :
    SameDelivery (p.ingestSamples target now samples).1
      { p with metrics := p.metrics ++ (Call.ingestSamples target now samples).writes p } := by
  by_cases hconfigured : p.hasTarget target = true
  · rw [Call.writes, if_pos hconfigured, ingestSamples, if_neg (by simp [hconfigured])]
    generalize samples.flatMap (p.writesOf target now) = writes
    have hnotes (ids : List String) : SameDelivery
        (noteAll target now ids (writes.foldl appendMetric p)).1
        { p with metrics := p.metrics ++ writes } :=
      (sameDelivery_noteAll _ target now ids).trans (p.sameDelivery_foldl_appendMetric writes)
    dsimp only
    generalize ((samples.filter _).filter _).map _ = ids
    specialize hnotes ids
    split
    · next heq =>
      rw [heq] at hnotes
      exact hnotes
    · next heq =>
      rw [heq] at hnotes
      obtain ⟨hmetrics, hevents, htasks, hwrites, hsent, hbatches⟩ := hnotes
      exact ⟨hmetrics, hevents, htasks, hwrites, hsent, hbatches⟩
  · rw [Call.writes, if_neg hconfigured, ingestSamples, if_pos (by simp [hconfigured]),
      List.append_nil]
    exact .refl p

/-- A mapped record does not touch what waits. -/
theorem sameDelivery_appendMapped (target : String) (now : Instant) (record : Option Record) :
    SameDelivery (p.appendMapped target now record).1 p := by
  cases record with
  | none => exact .refl p
  | some r =>
    have happend (q : Pipeline) := q.sameDelivery_appendRecord target now (some r)
    unfold appendMapped
    dsimp only
    split <;> next heq => exact (heq ▸ happend _).trans ⟨rfl, rfl, rfl, rfl, rfl, rfl⟩

/-- Of an event, just the event that is sent on joins what waits. -/
theorem sameDelivery_ingestEvent (target : String) (now : Instant) (e : Event) :
    SameDelivery (p.ingestEvent target now e).1
      { p with events := p.events ++ (Call.ingestEvent target now e).events p } := by
  by_cases hconfigured : p.hasTarget target = true
  · rw [Call.events, if_pos hconfigured, ingestEvent, if_neg (by simp [hconfigured])]
    obtain ⟨hmetrics, hevents, htasks, hwrites, hsent, hbatches⟩ := sameDelivery_appendMapped
      { p with health.eventsReceived := p.health.eventsReceived + 1 } target now
      (p.interpret target e).2
    exact ⟨hmetrics, congrArg (· ++ [(p.interpret target e).1]) hevents, htasks, hwrites, hsent,
      hbatches⟩
  · rw [Call.events, if_neg hconfigured, ingestEvent, if_pos (by simp [hconfigured]),
      List.append_nil]
    exact .refl p

/-- What a call makes of the side of delivery: it puts metric writes or events last, or takes all
of them, and changes nothing else there. -/
theorem sameDelivery_perform (call : Call) :
    SameDelivery (p.perform call)
      { p with
        metrics := if call = .takeMetrics then [] else p.metrics ++ call.writes p
        events := if call = .takeEvents then [] else p.events ++ call.events p } := by
  have hsame {q : Pipeline} (h : SameDelivery q p) : SameDelivery q
      { p with metrics := p.metrics ++ [], events := p.events ++ [] } := by
    rwa [List.append_nil, List.append_nil]
  cases call with
  | applyConfig target config => exact hsame (p.sameDelivery_applyConfig target config)
  | removeTarget target => exact hsame ⟨rfl, rfl, rfl, rfl, rfl, rfl⟩
  | appendRecord target now record => exact hsame (p.sameDelivery_appendRecord target now record)
  | note target id now => exact hsame (p.sameDelivery_note target id now)
  | ingestSamples target now samples =>
    refine (p.sameDelivery_ingestSamples target now samples).trans ?_
    exact ⟨rfl, (List.append_nil _).symm, rfl, rfl, rfl, rfl⟩
  | ingestEvent target now e =>
    refine (p.sameDelivery_ingestEvent target now e).trans ?_
    exact ⟨(List.append_nil _).symm, rfl, rfl, rfl, rfl, rfl⟩
  | drain now => exact hsame (p.sameDelivery_drain now)
  | discover now => exact hsame ⟨rfl, rfl, rfl, rfl, rfl, rfl⟩
  | appendMetric w => exact ⟨rfl, (List.append_nil _).symm, rfl, rfl, rfl, rfl⟩
  | appendEvent e => exact ⟨(List.append_nil _).symm, rfl, rfl, rfl, rfl, rfl⟩
  | takeMetrics => exact ⟨rfl, (List.append_nil _).symm, rfl, rfl, rfl, rfl⟩
  | takeEvents => exact ⟨(List.append_nil _).symm, rfl, rfl, rfl, rfl, rfl⟩

end Calls

end CloudCollector.Pipeline
