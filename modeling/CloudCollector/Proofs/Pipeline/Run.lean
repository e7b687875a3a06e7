import CloudCollector.Proofs.Pipeline.Drain

/-!
# Runs of a pipeline

A pipeline lives through a sequence of calls, each with the reading of the clock that it takes. Most
calls name one target; a drain and a discovery go over all of them, and the calls that only put
something last or take what waits for delivery name none. Calls come in any order, and clocks may
step back.
-/

namespace CloudCollector.Pipeline

/-- A call on a pipeline, with the time that the clock shows. -/
inductive Call where
  | applyConfig (target : String) (config : TargetConfig)
  | removeTarget (target : String)
  | appendRecord (target : String) (now : Instant) (record : Option Record)
  | note (target id : String) (now : Instant)
  | ingestSamples (target : String) (now : Instant) (samples : List Sample)
  | ingestEvent (target : String) (now : Instant) (event : Event)
  | drain (now : Instant)
  | discover (now : Instant)
  | appendMetric (write : MetricWrite)
  | appendEvent (event : Event)
  | takeMetrics
  | takeEvents
  deriving DecidableEq

/-- What a call gives back. -/
inductive Answer where
  | nothing
  | checked (result : Except PipelineError Unit)
  | removed (known : Bool)
  | sampled (result : Except IngestError IngestSummary)
  | mapped (result : Except IngestError Nat)
  | drained (batches : List Batch)
  | discovered (count : Nat)
  | metrics (writes : List MetricWrite)
  | events (events : List Event)

/-- The pipeline after a call, with what the call gives back. -/
def step (p : Pipeline) : Call → Pipeline × Answer
  | .applyConfig target config => (p.applyConfig target config).map id .checked
  | .removeTarget target => (p.removeTarget target).map id .removed
  | .appendRecord target now record => (p.appendRecord target now record).map id .checked
  | .note target sighted now => (p.note target sighted now).map id .checked
  | .ingestSamples target now samples => (p.ingestSamples target now samples).map id .sampled
  | .ingestEvent target now event => (p.ingestEvent target now event).map id .mapped
  | .drain now => (p.drain now).map id .drained
  | .discover now => (p.discover now).map id .discovered
  | .appendMetric write => (p.appendMetric write, .nothing)
  | .appendEvent event => (p.appendEvent event, .nothing)
  | .takeMetrics => p.takeMetrics.map id .metrics
  | .takeEvents => p.takeEvents.map id .events

/-- The pipeline after a call. -/
def perform (p : Pipeline) (call : Call) : Pipeline :=
  (p.step call).1

/-- The pipeline after a run of calls. -/
def after (p : Pipeline) (calls : List Call) : Pipeline :=
  calls.foldl perform p

/-- A pipeline that has seen no calls. -/
def fresh (settings : Settings) : Pipeline :=
  { settings }

/-- The target that a call names. -/
def Call.target? : Call → Option String
  | .applyConfig target _ => some target
  | .removeTarget target => some target
  | .appendRecord target _ _ => some target
  | .note target _ _ => some target
  | .ingestSamples target _ _ => some target
  | .ingestEvent target _ _ => some target
  | _ => none

/-- Whether a call goes over all targets. -/
def Call.isSweep : Call → Bool
  | .drain _ => true
  | .discover _ => true
  | _ => false

/-- Whether a call brings something in: it neither goes over all targets nor takes what waits for
delivery. -/
def Call.isArrival : Call → Bool
  | .drain _ | .discover _ | .takeMetrics | .takeEvents => false
  | _ => true

/-- Whether a call matters to a target: it names it or goes over all targets. -/
def Call.concerns (target : String) (call : Call) : Bool :=
  call.isSweep || call.target? = some target

/-- A call does not concern a target if it names another one, or none and goes over no targets. -/
theorem Call.concerns_eq_false_iff {target : String} {call : Call} :
    call.concerns target = false ↔ ¬call.isSweep = true ∧ call.target? ≠ some target := by
  simp [concerns]

/-- No calls change nothing. -/
@[simp]
theorem after_nil (p : Pipeline) : p.after [] = p := rfl

/-- A run makes its first call and then the rest. -/
theorem after_cons (p : Pipeline) (call : Call) (calls : List Call) :
    p.after (call :: calls) = (p.perform call).after calls := rfl

/-- A run may be made in two parts. -/
theorem after_append (p : Pipeline) (first second : List Call) :
    p.after (first ++ second) = (p.after first).after second :=
  List.foldl_append

/-- A run makes its last call after the others. -/
theorem after_concat (p : Pipeline) (calls : List Call) (call : Call) :
    p.after (calls ++ [call]) = (p.after calls).perform call := by
  rw [after_append, after_cons, after_nil]

section Target

variable {target : String} {p q : Pipeline}

/-- A call that names a target has the same answer from pipelines that are the same there, and
leaves them so. -/
theorem SameAt.step (h : SameAt target p q) {call : Call} (hcall : call.target? = some target) :
    SameOutcome target (p.step call) (q.step call) := by
  cases call with
  | applyConfig name config =>
    cases hcall
    exact (h.applyConfig config).map _
  | removeTarget name =>
    cases hcall
    exact h.removeTarget.map _
  | appendRecord name now record =>
    cases hcall
    exact (h.appendRecord now record).map _
  | note name id now =>
    cases hcall
    exact (h.note id now).map _
  | ingestSamples name now samples =>
    cases hcall
    exact (h.ingestSamples now samples).map _
  | ingestEvent name now event =>
    cases hcall
    exact (h.ingestEvent now event).map _
  | drain now => cases hcall
  | discover now => cases hcall
  | appendMetric write => cases hcall
  | appendEvent event => cases hcall
  | takeMetrics => cases hcall
  | takeEvents => cases hcall

/-- A call that does not concern a target changes nothing there. -/
theorem sameAt_perform_of_not_concerns {call : Call} (h : call.concerns target = false) :
    SameAt target (p.perform call) p := by
  obtain ⟨hsweep, hname⟩ := Call.concerns_eq_false_iff.mp h
  have hother {name : String} (hcall : call.target? = some name) : target ≠ name := by
    rintro rfl
    exact hname hcall
  cases call with
  | applyConfig name config => exact sameAt_applyConfig (hother rfl) config
  | removeTarget name => exact sameAt_removeTarget (hother rfl)
  | appendRecord name now record => exact sameAt_appendRecord (hother rfl) now record
  | note name id now => exact sameAt_note (hother rfl) id now
  | ingestSamples name now samples => exact sameAt_ingestSamples (hother rfl) now samples
  | ingestEvent name now event => exact sameAt_ingestEvent (hother rfl) now event
  | drain now => exact absurd rfl hsweep
  | discover now => exact absurd rfl hsweep
  | appendMetric write => exact ⟨rfl, rfl, rfl⟩
  | appendEvent event => exact ⟨rfl, rfl, rfl⟩
  | takeMetrics => exact ⟨rfl, rfl, rfl⟩
  | takeEvents => exact ⟨rfl, rfl, rfl⟩

/-- Pipelines that are the same at a target stay so in a sweep. -/
theorem SameAt.perform_of_isSweep (h : SameAt target p q) {call : Call}
    (hcall : call.isSweep = true) : SameAt target (p.perform call) (q.perform call) := by
  cases call with
  | drain now => exact h.drain now
  | discover now => exact h.discover now
  | _ => cases hcall

/-- Pipelines that are the same at a target stay so in every call. -/
theorem SameAt.perform (h : SameAt target p q) (call : Call) :
    SameAt target (p.perform call) (q.perform call) := by
  by_cases hsweep : call.isSweep = true
  · exact h.perform_of_isSweep hsweep
  by_cases hname : call.target? = some target
  · exact (h.step hname).pipeline
  · have hcall := Call.concerns_eq_false_iff.mpr ⟨hsweep, hname⟩
    exact (sameAt_perform_of_not_concerns hcall).trans
      (h.trans (sameAt_perform_of_not_concerns hcall).symm)

end Target

/-- Only a push and a removal change what is known about a target. -/
theorem known_perform {p : Pipeline} {target : String} {call : Call}
    (hpush : ∀ config, call ≠ .applyConfig target config) (hremoval : call ≠ .removeTarget target) :
    (p.perform call).registry.targets.get? target = p.registry.targets.get? target := by
  by_cases hname : call.target? = some target
  · cases call with
    | applyConfig name config =>
      cases hname
      exact absurd rfl (hpush config)
    | removeTarget name =>
      cases hname
      exact absurd rfl hremoval
    | appendRecord name now record =>
      exact congrArg (·.targets.get? target) (known_appendRecord p name now record)
    | note name id now => exact congrArg (·.targets.get? target) (known_note p name id now)
    | ingestSamples name now samples =>
      obtain ⟨ids, hnotes⟩ := exists_sameAt_ingestSamples p name now samples
      exact (hnotes target).known.trans
        (congrArg (·.targets.get? target) (known_noteAll p name now ids))
    | ingestEvent name now event =>
      obtain ⟨record, happend⟩ := exists_sameAt_ingestEvent p name now event
      exact (happend target).known.trans
        (congrArg (·.targets.get? target) (known_appendRecord p name now record))
    | _ => cases hname
  by_cases hsweep : call.isSweep = true
  · cases call with
    | drain now => exact (p.drain_frame now target).2
    | discover now => rfl
    | _ => cases hsweep
  · have hcall := Call.concerns_eq_false_iff.mpr ⟨hsweep, hname⟩
    exact (sameAt_perform_of_not_concerns hcall).known

/-- Calls do not change the settings. -/
theorem settings_perform (p : Pipeline) (call : Call) :
    (p.perform call).settings = p.settings := by
  by_cases hsweep : call.isSweep = true
  · cases call with
    | drain now => exact (p.drain_frame now "").1
    | discover now => rfl
    | _ => cases hsweep
  · -- every target that the call does not name sees the settings
    obtain ⟨target, hname⟩ : ∃ target, call.target? ≠ some target := by
      by_cases hempty : call.target? = some ""
      · exact ⟨"other", by simp [hempty]⟩
      · exact ⟨"", hempty⟩
    have hcall := Call.concerns_eq_false_iff.mpr ⟨hsweep, hname⟩
    exact (sameAt_perform_of_not_concerns hcall).settings

/-- Runs do not change the settings. -/
theorem settings_after (p : Pipeline) (calls : List Call) :
    (p.after calls).settings = p.settings := by
  induction calls generalizing p with
  | nil => rfl
  | cons call rest ih => exact (ih (p.perform call)).trans (p.settings_perform call)

end CloudCollector.Pipeline
