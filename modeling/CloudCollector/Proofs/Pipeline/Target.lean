import CloudCollector.Pipeline.Drain
import CloudCollector.Pipeline.Ingest
import CloudCollector.Proofs.Dict

/-!
# A pipeline seen from one target

A pipeline keeps two stores by target: what the registry knows, and the states. Two pipelines
may differ in everything else and still be the same at one target. An operation that names a
target reads and writes both stores there and nowhere else: pipelines that are the same at the
target stay so, with the same result, and at every other target the pipeline stays as it was.
-/

namespace CloudCollector.Pipeline

/-- A target is configured when something is known about it. -/
theorem hasTarget_eq_isSome (p : Pipeline) (target : String) :
    p.hasTarget target = (p.registry.targets.get? target).isSome := rfl

/-- The state of a target that has one. -/
theorem stateOf_of_get? {p : Pipeline} {target : String} {state : TargetState}
    (h : p.targets.get? target = some state) : p.stateOf target = state := by
  rw [stateOf, Dict.getD, h, Option.getD_some]

/-- Two pipelines with the same settings know the same about a target, and it has the same state
in both or in neither. -/
structure SameAt (target : String) (p q : Pipeline) : Prop where
  settings : p.settings = q.settings
  known : p.registry.targets.get? target = q.registry.targets.get? target
  state : p.targets.get? target = q.targets.get? target

/-- Two outcomes have the same result, and their pipelines are the same at a target. -/
structure SameOutcome {α : Type} (target : String) (x y : Pipeline × α) : Prop where
  pipeline : SameAt target x.1 y.1
  result : x.2 = y.2

/-- Outcomes that are the same at a target are two pipelines beside one result. -/
theorem SameOutcome.exists_eq {α : Type} {target : String} {x y : Pipeline × α}
    (h : SameOutcome target x y) :
    ∃ p q result, x = (p, result) ∧ y = (q, result) ∧ SameAt target p q :=
  ⟨x.1, y.1, x.2, rfl, Prod.ext rfl h.result.symm, h.pipeline⟩

/-- What is made of the result alone does not tell the two apart. -/
theorem SameOutcome.map {α β : Type} {target : String} {x y : Pipeline × α} (f : α → β)
    (h : SameOutcome target x y) : SameOutcome target (x.map id f) (y.map id f) :=
  ⟨h.pipeline, congrArg f h.result⟩

namespace SameAt

variable {target : String} {p q : Pipeline}

/-- A pipeline agrees with itself at every target. -/
theorem refl (target : String) (p : Pipeline) : SameAt target p p :=
  ⟨rfl, rfl, rfl⟩

/-- Agreement at a target has no direction. -/
theorem symm (h : SameAt target p q) : SameAt target q p :=
  ⟨h.settings.symm, h.known.symm, h.state.symm⟩

/-- Agreement at a target passes on from pipeline to pipeline. -/
theorem trans {r : Pipeline} (h : SameAt target p q) (h' : SameAt target q r) :
    SameAt target p r :=
  ⟨h.settings.trans h'.settings, h.known.trans h'.known, h.state.trans h'.state⟩

/-- Pipelines that agree at a target agree on whether it is configured. -/
theorem hasTarget_eq (h : SameAt target p q) : p.hasTarget target = q.hasTarget target := by
  rw [hasTarget_eq_isSome, hasTarget_eq_isSome, h.known]

/-- Pipelines that agree at a target know the same resources there. -/
theorem resource?_eq (h : SameAt target p q) (id : String) :
    p.registry.resource? target id = q.registry.resource? target id := by
  rw [Registry.resource?, Registry.resource?, h.known]

/-- Pipelines that agree at a target know the same resources of each kind there. -/
theorem idsOfKind_eq (h : SameAt target p q) (kind : String) :
    p.registry.idsOfKind target kind = q.registry.idsOfKind target kind := by
  rw [Registry.idsOfKind, Registry.idsOfKind, h.known]

/-- The state that an operation on the target starts from is the same, fresh or not. -/
theorem stateOf_eq (h : SameAt target p q) : p.stateOf target = q.stateOf target := by
  rw [stateOf, stateOf, Dict.getD, Dict.getD, h.state, h.settings]

/-- A sample of the target leads to the same metric writes. -/
theorem writesOf_eq (h : SameAt target p q) (now : Instant) :
    p.writesOf target now = q.writesOf target now := by
  funext s
  rw [writesOf, writesOf, Registry.datapointsFor, Registry.datapointsFor, h.resource?_eq]

/-- The same samples of the target feed no datapoint. -/
theorem isUnmonitored_eq (h : SameAt target p q) :
    p.isUnmonitored target = q.isUnmonitored target := by
  funext s
  rw [isUnmonitored, isUnmonitored, Registry.datapointsFor, Registry.datapointsFor, h.resource?_eq]

/-- The same samples of the target may reveal a child. -/
theorem mayReveal_eq (h : SameAt target p q) : p.mayReveal target = q.mayReveal target := by
  funext s
  rw [mayReveal, mayReveal, Registry.hasResource, Registry.hasResource, h.resource?_eq, h.settings]

/-- An event of the target is read alike. -/
theorem interpret_eq (h : SameAt target p q) : p.interpret target = q.interpret target := by
  funext e
  rw [interpret, interpret, Registry.handlesEventType, Registry.handlesEventType, h.known]

/-- Pipelines that are the same at a target recognize the same children in it. -/
theorem discoverIn_eq (h : SameAt target p q) (now : Instant) :
    p.discoverIn now target = q.discoverIn now target := by
  have hmatch : Sightings.matchCandidate p.registry target =
      Sightings.matchCandidate q.registry target := by
    funext rules candidate
    simp only [Sightings.matchCandidate, Registry.componentFor?, h.idsOfKind_eq, h.resource?_eq]
  funext state
  simp only [discoverIn, Sightings.discover, Sightings.matched, hmatch, h.settings]

end SameAt

/-! ## What an operation writes -/

section Writes

variable (p : Pipeline) (target name : String)

/-- The first step of a push replaces what is known about its target, and about no other one. -/
theorem get?_known_register (config : TargetConfig) :
    (p.register name config).registry.targets.get? target =
      if target = name then some (.ofConfig config) else p.registry.targets.get? target :=
  Dict.get?_insert ..

/-- The second step of a push tunes the queue of its target, which may have to begin, and of no
other one. -/
theorem get?_targets_retune (tuning : Tuning) :
    (p.retune name tuning).targets.get? target =
      if target = name then
        some ((p.targets.get? name).elim (.fresh tuning) fun state =>
          { state with queue := state.queue.setTuning tuning })
      else p.targets.get? target := by
  rw [retune, Dict.get?_insert]
  cases p.targets.get? name <;> rfl

/-- After a removal nothing is known about the target, and as much as before about any other one. -/
theorem get?_known_removeTarget :
    (p.removeTarget name).1.registry.targets.get? target =
      if target = name then none else p.registry.targets.get? target :=
  Dict.get?_erase ..

/-- After a removal the target has no state, and any other one has the state that it had. -/
theorem get?_targets_removeTarget :
    (p.removeTarget name).1.targets.get? target =
      if target = name then none else p.targets.get? target :=
  Dict.get?_erase ..

/-- A record joins the queue of its target, which may have to begin, and no other one. -/
theorem get?_targets_enqueue (now : Instant) (r : Record) :
    (p.enqueue name now r).targets.get? target =
      if target = name then
        some { p.stateOf name with queue := (p.stateOf name).queue.append now r }
      else p.targets.get? target :=
  Dict.get?_insert ..

/-- A note under an empty name changes nothing; any other one changes the sightings there. -/
theorem get?_targets_note (id : String) (now : Instant) :
    (p.note name id now).1.targets.get? target =
      if target = name ∧ name ≠ "" then
        some { p.stateOf name with sightings := (p.stateOf name).sightings.note id now }
      else p.targets.get? target := by
  unfold note
  split
  · next hname => rw [if_neg fun h => h.2 hname]
  · next hname =>
    rw [Dict.get?_insert]
    simp [hname]

/-- What is known does not change when a record is appended. -/
theorem known_appendRecord (now : Instant) (record : Option Record) :
    (p.appendRecord name now record).1.registry = p.registry := by
  cases record with
  | none => rfl
  | some r =>
    simp only [appendRecord]
    cases checkRecord name r <;> rfl

/-- A note changes nothing that is known. -/
theorem known_note (id : String) (now : Instant) :
    (p.note name id now).1.registry = p.registry := by
  unfold note
  split <;> rfl

/-- Notes change nothing that is known. -/
theorem known_noteAll (now : Instant) (ids : List String) :
    (noteAll name now ids p).1.registry = p.registry := by
  induction ids generalizing p with
  | nil => rfl
  | cons id ids ih =>
    have hnote : (p.note name id now).1.registry = p.registry := known_note p name id now
    unfold noteAll
    split
    · next p' heq =>
      rw [heq] at hnote
      exact (ih p').trans hnote
    · next heq =>
      rw [heq] at hnote
      exact hnote

/-- An event changes nothing that is known. -/
theorem known_ingestEvent (now : Instant) (e : Event) :
    (p.ingestEvent name now e).1.registry = p.registry := by
  unfold ingestEvent
  split
  · rfl
  · dsimp only
    cases (p.interpret name e).2 with
    | none => rfl
    | some r =>
      simp only [appendMapped, appendEvent, appendRecord]
      cases checkRecord name r <;> rfl

end Writes

/-! ## Operations on the target -/

section Operations

variable {target name : String} {p q : Pipeline}

/-- What waits for delivery does not matter to any target. -/
theorem sameAt_foldl_appendMetric (target : String) (writes : List MetricWrite) (p : Pipeline) :
    SameAt target (writes.foldl appendMetric p) p := by
  induction writes generalizing p with
  | nil => exact .refl target p
  | cons w writes ih => exact (ih (p.appendMetric w)).trans ⟨rfl, rfl, rfl⟩

/-- A push to the target comes out alike in pipelines that agree there. -/
theorem SameAt.applyConfig (h : SameAt target p q) (config : TargetConfig) :
    SameOutcome target (p.applyConfig target config) (q.applyConfig target config) := by
  unfold Pipeline.applyConfig
  split
  · exact ⟨h, rfl⟩
  · refine ⟨⟨h.settings, ?_, ?_⟩, rfl⟩
    · calc ((p.register target config).retune target config.queue).registry.targets.get? target
          = (p.register target config).registry.targets.get? target := rfl
        _ = some (.ofConfig config) := by rw [get?_known_register, if_pos rfl]
        _ = (q.register target config).registry.targets.get? target := by
            rw [get?_known_register, if_pos rfl]
    · have hregister : (p.register target config).targets.get? target =
          (q.register target config).targets.get? target := h.state
      change ((p.register target config).retune target config.queue).targets.get? target =
        ((q.register target config).retune target config.queue).targets.get? target
      rw [get?_targets_retune, get?_targets_retune, hregister]

/-- A removal of the target comes out alike. -/
theorem SameAt.removeTarget (h : SameAt target p q) :
    SameOutcome target (p.removeTarget target) (q.removeTarget target) := by
  refine ⟨⟨h.settings, ?_, ?_⟩, ?_⟩
  · rw [get?_known_removeTarget, get?_known_removeTarget, h.known]
  · rw [get?_targets_removeTarget, get?_targets_removeTarget, h.state]
  · have hknown : p.registry.hasTarget target = q.registry.hasTarget target := h.hasTarget_eq
    rw [Pipeline.removeTarget, Pipeline.removeTarget, hknown, Dict.contains_eq_isSome,
      Dict.contains_eq_isSome, h.state]

/-- A record that joins the queue of the target leaves the pipelines in agreement. -/
theorem SameAt.enqueue (h : SameAt target p q) (now : Instant) (r : Record) :
    SameAt target (p.enqueue target now r) (q.enqueue target now r) := by
  refine ⟨h.settings, h.known, ?_⟩
  rw [get?_targets_enqueue, get?_targets_enqueue, h.stateOf_eq, h.state]

/-- A record for the target is accepted or refused alike. -/
theorem SameAt.appendRecord (h : SameAt target p q) (now : Instant) (record : Option Record) :
    SameOutcome target (p.appendRecord target now record) (q.appendRecord target now record) := by
  cases record with
  | none => exact ⟨h, rfl⟩
  | some r =>
    simp only [Pipeline.appendRecord]
    cases checkRecord target r with
    | error cause => exact ⟨⟨h.settings, h.known, h.state⟩, rfl⟩
    | ok _ => exact ⟨h.enqueue now r, rfl⟩

/-- A note for the target comes out alike. -/
theorem SameAt.note (h : SameAt target p q) (id : String) (now : Instant) :
    SameOutcome target (p.note target id now) (q.note target id now) := by
  refine ⟨⟨?_, ?_, ?_⟩, ?_⟩
  · unfold Pipeline.note
    split <;> exact h.settings
  · unfold Pipeline.note
    split <;> exact h.known
  · rw [get?_targets_note, get?_targets_note, h.stateOf_eq, h.state]
  · unfold Pipeline.note
    split <;> rfl

/-- Notes for the target come out alike, up to the first that is refused. -/
theorem SameAt.noteAll (h : SameAt target p q) (now : Instant) (ids : List String) :
    SameOutcome target (noteAll target now ids p) (noteAll target now ids q) := by
  induction ids generalizing p q with
  | nil => exact ⟨h, rfl⟩
  | cons id ids ih =>
    obtain ⟨p', q', result, hp, hq, hsame⟩ := (h.note id now).exists_eq
    rw [Pipeline.noteAll, Pipeline.noteAll, hp, hq]
    cases result with
    | error cause => exact ⟨hsame, rfl⟩
    | ok _ => exact ih hsame

/-- Samples of the target come out alike, with the same summary. -/
theorem SameAt.ingestSamples (h : SameAt target p q) (now : Instant) (samples : List Sample) :
    SameOutcome target (p.ingestSamples target now samples)
      (q.ingestSamples target now samples) := by
  unfold Pipeline.ingestSamples
  rw [h.hasTarget_eq, h.writesOf_eq, h.isUnmonitored_eq, h.mayReveal_eq]
  split
  · exact ⟨h, rfl⟩
  · have hwrites (writes : List MetricWrite) :
        SameAt target (writes.foldl appendMetric p) (writes.foldl appendMetric q) :=
      (sameAt_foldl_appendMetric target writes p).trans
        (h.trans (sameAt_foldl_appendMetric target writes q).symm)
    obtain ⟨p', q', result, hp, hq, hsame⟩ :=
      ((hwrites (samples.flatMap (q.writesOf target now))).noteAll now
        (((samples.filter (q.isUnmonitored target)).filter (q.mayReveal target)).map
          (·.resourceId))).exists_eq
    dsimp only
    rw [hp, hq]
    cases result with
    | error cause => exact ⟨hsame, rfl⟩
    | ok _ => exact ⟨⟨hsame.settings, hsame.known, hsame.state⟩, rfl⟩

/-- A mapped record for the target comes out alike. -/
theorem SameAt.appendMapped (h : SameAt target p q) (now : Instant) (record : Option Record) :
    SameOutcome target (p.appendMapped target now record) (q.appendMapped target now record) := by
  cases record with
  | none => exact ⟨h, rfl⟩
  | some r =>
    have hmapped : SameAt target
        { p with health.eventsMapped := p.health.eventsMapped + 1 }
        { q with health.eventsMapped := q.health.eventsMapped + 1 } :=
      ⟨h.settings, h.known, h.state⟩
    obtain ⟨p', q', result, hp, hq, hsame⟩ := (hmapped.appendRecord now (some r)).exists_eq
    simp only [Pipeline.appendMapped]
    rw [hp, hq]
    cases result with
    | error cause => exact ⟨hsame, rfl⟩
    | ok _ => exact ⟨hsame, rfl⟩

/-- An event of the target comes out alike. -/
theorem SameAt.ingestEvent (h : SameAt target p q) (now : Instant) (e : Event) :
    SameOutcome target (p.ingestEvent target now e) (q.ingestEvent target now e) := by
  unfold Pipeline.ingestEvent
  rw [h.hasTarget_eq, h.interpret_eq]
  split
  · exact ⟨h, rfl⟩
  · have hcounted : SameAt target
        { p with health.eventsReceived := p.health.eventsReceived + 1 }
        { q with health.eventsReceived := q.health.eventsReceived + 1 } :=
      ⟨h.settings, h.known, h.state⟩
    have hmapped := hcounted.appendMapped now (q.interpret target e).2
    exact ⟨⟨hmapped.pipeline.settings, hmapped.pipeline.known, hmapped.pipeline.state⟩,
      congrArg Except.ok hmapped.result⟩

end Operations

/-! ## Operations on other targets -/

section OtherTargets

variable {target name : String} {p : Pipeline}

/-- A push does not concern another target. -/
theorem sameAt_applyConfig (h : target ≠ name) (config : TargetConfig) :
    SameAt target (p.applyConfig name config).1 p := by
  unfold applyConfig
  split
  · exact .refl target p
  · have hretuned := get?_targets_retune (p.register name config) target name config.queue
    refine ⟨rfl, ?_, ?_⟩
    · exact (get?_known_register p target name config).trans (if_neg h)
    · exact hretuned.trans (if_neg h)

/-- A removal does not concern another target. -/
theorem sameAt_removeTarget (h : target ≠ name) : SameAt target (p.removeTarget name).1 p := by
  refine ⟨rfl, ?_, ?_⟩
  · rw [get?_known_removeTarget, if_neg h]
  · rw [get?_targets_removeTarget, if_neg h]

/-- A record that joins a queue does not concern another target. -/
theorem sameAt_enqueue (h : target ≠ name) (now : Instant) (r : Record) :
    SameAt target (p.enqueue name now r) p := by
  refine ⟨rfl, rfl, ?_⟩
  rw [get?_targets_enqueue, if_neg h]

/-- A record does not concern another target, accepted or not. -/
theorem sameAt_appendRecord (h : target ≠ name) (now : Instant) (record : Option Record) :
    SameAt target (p.appendRecord name now record).1 p := by
  cases record with
  | none => exact .refl target p
  | some r =>
    simp only [appendRecord]
    cases checkRecord name r with
    | error cause => exact ⟨rfl, rfl, rfl⟩
    | ok _ => exact sameAt_enqueue h now r

/-- A note does not concern another target. -/
theorem sameAt_note (h : target ≠ name) (id : String) (now : Instant) :
    SameAt target (p.note name id now).1 p := by
  refine ⟨?_, ?_, ?_⟩
  · unfold note
    split <;> rfl
  · unfold note
    split <;> rfl
  · rw [get?_targets_note, if_neg fun hname => h hname.1]

/-- Notes do not concern another target. -/
theorem sameAt_noteAll (h : target ≠ name) (now : Instant) (ids : List String) (p : Pipeline) :
    SameAt target (noteAll name now ids p).1 p := by
  induction ids generalizing p with
  | nil => exact .refl target p
  | cons id ids ih =>
    have hnote : SameAt target (p.note name id now).1 p := sameAt_note h id now
    unfold noteAll
    split
    · next p' heq =>
      rw [heq] at hnote
      exact (ih p').trans hnote
    · next p' cause heq =>
      rw [heq] at hnote
      exact hnote

/-- Pipelines that are the same at any target stay so when both note the same ids. -/
theorem SameAt.noteAll_fst {q : Pipeline} (h : SameAt target p q) (name : String) (now : Instant)
    (ids : List String) :
    SameAt target (Pipeline.noteAll name now ids p).1 (Pipeline.noteAll name now ids q).1 := by
  by_cases hname : target = name
  · subst hname
    exact (h.noteAll now ids).pipeline
  · exact (sameAt_noteAll hname now ids p).trans (h.trans (sameAt_noteAll hname now ids q).symm)

/-- Pipelines that are the same at any target stay so when both append the same record. -/
theorem SameAt.appendRecord_fst {q : Pipeline} (h : SameAt target p q) (name : String)
    (now : Instant) (record : Option Record) :
    SameAt target (p.appendRecord name now record).1 (q.appendRecord name now record).1 := by
  by_cases hname : target = name
  · subst hname
    exact (h.appendRecord now record).pipeline
  · exact (sameAt_appendRecord hname now record).trans
      (h.trans (sameAt_appendRecord hname now record).symm)

/-- A mapped record is appended like any other. -/
theorem sameAt_appendMapped (p : Pipeline) (target name : String) (now : Instant)
    (record : Option Record) :
    SameAt target (p.appendMapped name now record).1 (p.appendRecord name now record).1 := by
  cases record with
  | none => exact .refl target p
  | some r =>
    have hmapped : SameAt target { p with health.eventsMapped := p.health.eventsMapped + 1 } p :=
      ⟨rfl, rfl, rfl⟩
    have happend := hmapped.appendRecord_fst name now (some r)
    simp only [appendMapped]
    split
    · next heq => rwa [heq] at happend
    · next heq => rwa [heq] at happend

/-- The resources that samples may reveal to be children. -/
def revealed (p : Pipeline) (target : String) (samples : List Sample) : List String :=
  ((samples.filter (p.isUnmonitored target)).filter (p.mayReveal target)).map (·.resourceId)

/-- Samples of a configured target lead to notes of what they may reveal, and change nothing else at
any target. -/
theorem sameAt_ingestSamples_noteAll {name : String} (hname : p.hasTarget name = true)
    (target : String) (now : Instant) (samples : List Sample) :
    SameAt target (p.ingestSamples name now samples).1
      (noteAll name now (p.revealed name samples) p).1 := by
  have hnotes := (sameAt_foldl_appendMetric target
    (samples.flatMap (p.writesOf name now)) p).noteAll_fst name now (p.revealed name samples)
  unfold revealed at hnotes ⊢
  unfold ingestSamples
  rw [if_neg (by simp [hname])]
  dsimp only
  split
  · next heq => rwa [heq] at hnotes
  · next heq =>
    rw [heq] at hnotes
    exact ⟨hnotes.settings, hnotes.known, hnotes.state⟩

/-- Samples of a target that nobody configured are refused. -/
theorem ingestSamples_of_not_hasTarget {name : String} (hname : p.hasTarget name = false)
    (now : Instant) (samples : List Sample) : (p.ingestSamples name now samples).1 = p := by
  unfold ingestSamples
  rw [if_pos (by simp [hname])]

/-- Samples lead to notes of some ids, and change nothing else at any target. -/
theorem exists_sameAt_ingestSamples (p : Pipeline) (name : String) (now : Instant)
    (samples : List Sample) :
    ∃ ids, ∀ target,
      SameAt target (p.ingestSamples name now samples).1 (noteAll name now ids p).1 := by
  cases hname : p.hasTarget name with
  | false =>
    rw [ingestSamples_of_not_hasTarget hname]
    exact ⟨[], fun target => .refl target p⟩
  | true =>
    exact ⟨p.revealed name samples,
      fun target => sameAt_ingestSamples_noteAll hname target now samples⟩

/-- What an event of a configured target is mapped to is appended, and nothing else changes at any
target. -/
theorem sameAt_ingestEvent_appendRecord {name : String} (hname : p.hasTarget name = true)
    (target : String) (now : Instant) (e : Event) :
    SameAt target (p.ingestEvent name now e).1
      (p.appendRecord name now (p.interpret name e).2).1 := by
  have hcounted : SameAt target
      { p with health.eventsReceived := p.health.eventsReceived + 1 } p := ⟨rfl, rfl, rfl⟩
  have hmapped := (sameAt_appendMapped _ target name now (p.interpret name e).2).trans
    (hcounted.appendRecord_fst name now _)
  unfold ingestEvent
  rw [if_neg (by simp [hname])]
  exact ⟨hmapped.settings, hmapped.known, hmapped.state⟩

/-- Events of a target that nobody configured are refused. -/
theorem ingestEvent_of_not_hasTarget {name : String} (hname : p.hasTarget name = false)
    (now : Instant) (e : Event) : (p.ingestEvent name now e).1 = p := by
  unfold ingestEvent
  rw [if_pos (by simp [hname])]

/-- An event leads to a record or none that is appended, and changes nothing else at any target. -/
theorem exists_sameAt_ingestEvent (p : Pipeline) (name : String) (now : Instant) (e : Event) :
    ∃ record, ∀ target,
      SameAt target (p.ingestEvent name now e).1 (p.appendRecord name now record).1 := by
  cases hname : p.hasTarget name with
  | false =>
    rw [ingestEvent_of_not_hasTarget hname]
    exact ⟨none, fun target => .refl target p⟩
  | true =>
    exact ⟨(p.interpret name e).2,
      fun target => sameAt_ingestEvent_appendRecord hname target now e⟩

/-- Samples do not concern another target. -/
theorem sameAt_ingestSamples (h : target ≠ name) (now : Instant) (samples : List Sample) :
    SameAt target (p.ingestSamples name now samples).1 p := by
  obtain ⟨ids, hnotes⟩ := exists_sameAt_ingestSamples p name now samples
  exact (hnotes target).trans (sameAt_noteAll h now ids p)

/-- An event does not concern another target. -/
theorem sameAt_ingestEvent (h : target ≠ name) (now : Instant) (e : Event) :
    SameAt target (p.ingestEvent name now e).1 p := by
  obtain ⟨record, happend⟩ := exists_sameAt_ingestEvent p name now e
  exact (happend target).trans (sameAt_appendRecord h now record)

end OtherTargets

end CloudCollector.Pipeline
