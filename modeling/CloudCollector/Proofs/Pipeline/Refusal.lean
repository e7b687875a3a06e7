import CloudCollector.Proofs.InstanceEvents
import CloudCollector.Proofs.Pipeline.Reachable

/-!
# Refusals leave no trace

An operation that is refused changes nothing, except that a refused record is counted. A push is
refused for its target's name or its tuning, a record for its target's name or its own, a note for
its target's name, and telemetry if nobody configured its target. Once telemetry is taken nothing
inside can be refused any more: a configured target has a name, and so has every record that an
event leads to.
-/

namespace CloudCollector

namespace Pipeline

/-- An operation fails exactly under a condition, and then leaves behind the pipeline `left`. -/
structure FailsExactly {ε α : Type} (outcome : Pipeline × Except ε α) (condition : Prop)
    (left : Pipeline) : Prop where
  iff : (∃ cause, outcome.2 = .error cause) ↔ condition
  eq_left : condition → outcome.1 = left

/-- The pipeline with one more refused record counted. -/
def countRejected (p : Pipeline) : Pipeline :=
  { p with health.deltasRejected := p.health.deltasRejected + 1 }

section Operations

variable (p : Pipeline) (target : String)

/-- A push fails for an empty name or for a tuning that does not hold, and changes nothing then. -/
theorem failsExactly_applyConfig (config : TargetConfig) :
    FailsExactly (p.applyConfig target config)
      (target = "" ∨ config.queue.validate ≠ .ok ()) p := by
  have hcheck : (∃ cause, checkConfig target config = .error cause) ↔
      target = "" ∨ config.queue.validate ≠ .ok () := by
    have haccepted : checkConfig target config = .ok () ↔ _ := checkConfig_eq_ok_iff
    rw [← not_iff_not, not_or, not_not, ← Ne, ← haccepted]
    cases checkConfig target config <;> simp
  refine ⟨by rw [applyConfig_result, hcheck], fun hcondition => ?_⟩
  obtain ⟨cause, hcause⟩ := hcheck.mpr hcondition
  rw [applyConfig, hcause]

/-- A record fails for an empty name of its target or its entity, and is only counted then. -/
theorem failsExactly_appendRecord (now : Instant) (record : Option Record) :
    FailsExactly (p.appendRecord target now record)
      (∃ r, record = some r ∧ (target = "" ∨ r.targetId = "")) p.countRejected := by
  cases record with
  | none => exact ⟨by simp [appendRecord], by simp⟩
  | some r =>
    have hrefused : (∃ s, some r = some s ∧ (target = "" ∨ s.targetId = "")) ↔
        checkRecord target r ≠ .ok () := by
      rw [Ne, checkRecord_eq_ok_iff, Classical.not_and_iff_not_or_not]
      simp
    rw [appendRecord, hrefused]
    cases checkRecord target r with
    | error cause => exact ⟨by simp, fun _ => rfl⟩
    | ok _ => exact ⟨by simp, fun h => absurd rfl h⟩

/-- A note fails for an empty name, and changes nothing then. -/
theorem failsExactly_note (id : String) (now : Instant) :
    FailsExactly (p.note target id now) (target = "") p := by
  unfold note
  split
  · next hname => exact ⟨by simp [hname], fun _ => rfl⟩
  · next hname => exact ⟨by simp [hname], fun h => absurd h hname⟩

variable {target}

/-- Under a name, every id is noted. -/
theorem noteAll_result (now : Instant) (ids : List String) (hname : target ≠ "") :
    (noteAll target now ids p).2 = .ok () := by
  induction ids generalizing p with
  | nil => rfl
  | cons id ids ih =>
    have hnote : p.note target id now = ((p.note target id now).1, .ok ()) := by
      rw [note, if_neg hname]
    rw [noteAll, hnote]
    exact ih _

/-- Samples of a configured target are accepted, all of them. -/
theorem ingestSamples_of_hasTarget (now : Instant) (samples : List Sample) (hname : target ≠ "")
    (hconfigured : p.hasTarget target = true) :
    ∃ summary, (p.ingestSamples target now samples).2 = .ok summary ∧
      summary.accepted = samples.length := by
  have hnotes (q : Pipeline) (ids : List String) :
      noteAll target now ids q = ((noteAll target now ids q).1, .ok ()) :=
    Prod.ext rfl (noteAll_result q now ids hname)
  rw [ingestSamples, if_neg (by simp [hconfigured])]
  dsimp only
  rw [hnotes]
  exact ⟨_, rfl, rfl⟩

/-- Samples of a named target fail if nobody configured it, and change nothing then. -/
theorem failsExactly_ingestSamples (now : Instant) (samples : List Sample) (hname : target ≠ "") :
    FailsExactly (p.ingestSamples target now samples) (p.hasTarget target = false) p := by
  cases hconfigured : p.hasTarget target with
  | false =>
    rw [ingestSamples, if_pos (by simp [hconfigured])]
    exact ⟨by simp, fun _ => rfl⟩
  | true =>
    obtain ⟨summary, hresult, -⟩ := p.ingestSamples_of_hasTarget now samples hname hconfigured
    exact ⟨by simp [hresult], by simp⟩

/-- An event fails if nobody configured its target, and changes nothing then. -/
theorem failsExactly_ingestEvent (target : String) (now : Instant) (e : Event) :
    FailsExactly (p.ingestEvent target now e) (p.hasTarget target = false) p := by
  unfold ingestEvent
  cases hconfigured : p.hasTarget target with
  | false => exact ⟨by simp, fun _ => rfl⟩
  | true => exact ⟨by simp, by simp⟩

/-- What a taken event leads to names its entity. -/
theorem targetId_ne_of_interpret {e : Event} {r : Record} (h : (p.interpret target e).2 = some r) :
    r.targetId ≠ "" := by
  unfold interpret at h
  dsimp only at h
  split at h
  · exact InstanceEvents.targetId_ne_of_apply h
  · cases h

/-- A record that an event leads to is accepted, by whatever pipeline it is added to. -/
theorem appendRecord_interpret_result (q : Pipeline) (now : Instant) (e : Event)
    (hname : target ≠ "") :
    (q.appendRecord target now (p.interpret target e).2).2 = .ok () := by
  cases hrecord : (p.interpret target e).2 with
  | none => rfl
  | some r =>
    have hid : r.targetId ≠ "" := p.targetId_ne_of_interpret hrecord
    rw [appendRecord, checkRecord_eq_ok_iff.mpr ⟨hname, hid⟩]

/-- An event of a configured target is answered by the number of its records, and none of them
counts as refused. -/
theorem ingestEvent_of_hasTarget (now : Instant) (e : Event) (hname : target ≠ "")
    (hconfigured : p.hasTarget target = true) :
    (p.ingestEvent target now e).2 = .ok (p.interpret target e).2.toList.length ∧
      (p.ingestEvent target now e).1.health.deltasRejected = p.health.deltasRejected := by
  have haccepted := fun q => p.appendRecord_interpret_result q now e hname
  rw [ingestEvent, if_neg (by simp [hconfigured])]
  dsimp only
  cases hrecord : (p.interpret target e).2 with
  | none => exact ⟨rfl, rfl⟩
  | some r =>
    have hcheck : checkRecord target r = .ok () := by
      have happend := haccepted p
      rw [hrecord, appendRecord] at happend
      cases hresult : checkRecord target r with
      | ok _ => rfl
      | error cause =>
        rw [hresult] at happend
        cases happend
    rw [appendMapped, appendRecord, hcheck]
    exact ⟨rfl, rfl⟩

end Operations

/-- **Refusals are the stated ones, and leave no trace.** In every reachable pipeline a push fails
if its target has no name or its tuning does not hold, a record if there is one and its target or
its entity has no name, a note if its target has no name, and telemetry if nobody configured its
target, each for no other reason. What fails leaves the pipeline as it was, but that a refused
record is counted. Within telemetry of a configured target no note and no record is refused. -/
theorem refusals_exact {p : Pipeline} (hp : p.Reachable) (target : String) (now : Instant) :
    (∀ config, FailsExactly (p.applyConfig target config)
      (target = "" ∨ config.queue.validate ≠ .ok ()) p) ∧
    (∀ record, FailsExactly (p.appendRecord target now record)
      (∃ r, record = some r ∧ (target = "" ∨ r.targetId = "")) p.countRejected) ∧
    (∀ id, FailsExactly (p.note target id now) (target = "") p) ∧
    (∀ samples, FailsExactly (p.ingestSamples target now samples) (p.hasTarget target = false) p) ∧
    (∀ e, FailsExactly (p.ingestEvent target now e) (p.hasTarget target = false) p) ∧
    (p.hasTarget target = true →
      (∀ q ids, (noteAll target now ids q).2 = .ok ()) ∧
      (∀ (q : Pipeline) e, (q.appendRecord target now (p.interpret target e).2).2 = .ok ()) ∧
      ∀ e, (p.ingestEvent target now e).2 = .ok (p.interpret target e).2.toList.length ∧
        (p.ingestEvent target now e).1.health.deltasRejected = p.health.deltasRejected) := by
  refine ⟨p.failsExactly_applyConfig target, p.failsExactly_appendRecord target now,
    fun id => p.failsExactly_note target id now, fun samples => ?_,
    p.failsExactly_ingestEvent target now, fun hconfigured => ?_⟩
  · by_cases hname : target = ""
    · -- nobody configured a target without a name
      have hunknown : p.hasTarget target = false := by
        rw [← Bool.not_eq_true]
        exact fun h => hp.ne_of_hasTarget h hname
      rw [ingestSamples, if_pos (by simp [hunknown])]
      exact ⟨by simp [hunknown], fun _ => rfl⟩
    · exact p.failsExactly_ingestSamples now samples hname
  · have hname := hp.ne_of_hasTarget hconfigured
    exact ⟨fun q ids => noteAll_result q now ids hname,
      fun q e => p.appendRecord_interpret_result q now e hname,
      fun e => p.ingestEvent_of_hasTarget now e hname hconfigured⟩

/-- At the site, a push that would make its window of creations empty is refused, and so are the
samples of a lab that nobody configured; neither leaves a trace. -/
theorem site_refuses :
    let p := (fresh {}).after siteCalls
    (p.applyConfig "site" { queue := { shortlived := .ofSeconds 0 } }).1 = p ∧
    (∃ cause, (p.ingestSamples "lab" (.ofSeconds 13160) []).2 = .error cause) ∧
    (p.ingestSamples "lab" (.ofSeconds 13160) []).1 = p ∧
    (p.appendRecord "site" (.ofSeconds 13160) (some { targetId := "" })).1 = p.countRejected := by
  intro p
  have hp : p.Reachable := (Reachable.fresh {}).after siteCalls
  obtain ⟨hpush, hrecord, -⟩ := refusals_exact hp "site" (.ofSeconds 13160)
  obtain ⟨-, -, -, hsamples, -⟩ := refusals_exact hp "lab" (.ofSeconds 13160)
  have hunknown : p.hasTarget "lab" = false := by decide
  exact ⟨(hpush _).eq_left (.inr (by decide)), (hsamples []).iff.mpr hunknown,
    (hsamples []).eq_left hunknown, (hrecord _).eq_left ⟨_, rfl, .inr rfl⟩⟩

end Pipeline

end CloudCollector
