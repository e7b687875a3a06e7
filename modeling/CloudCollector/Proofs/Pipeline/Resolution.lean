import CloudCollector.Proofs.Pipeline.Reachable

/-!
# What samples are resolved to

Samples of a configured target lead to the writes of their datapoints, in order, and to sightings of
what they may reveal. All of it is one change of the pipeline, which this file states in full: what
waits already stays in front, nothing is resolved twice, and no other target takes part.
-/

namespace CloudCollector

/-! ## Noting several ids at once -/

/-- Notes several ids at one time. -/
def Sightings.noteEach (s : Sightings) (now : Instant) (ids : List String) : Sightings :=
  ids.foldl (fun s id => s.note id now) s

/-- A note keeps what is known of every id, and adds the time of its own if that is new. -/
theorem Sightings.note_exact (s : Sightings) (id other : String) (now : Instant) :
    (s.note id now).modeled = s.modeled ∧
      (s.note id now).potential.get? other =
        (s.potential.get? other).or
          (if other = id ∧ s.isModeled other = false then some now else none) := by
  unfold note
  split
  · next hknown =>
    refine ⟨rfl, ?_⟩
    rw [Bool.or_eq_true, Dict.contains_eq_isSome] at hknown
    by_cases hother : other = id
    · subst hother
      rcases hknown with hmodeled | hseen
      · simp [hmodeled]
      · obtain ⟨seen, hseen⟩ := Option.isSome_iff_exists.mp hseen
        simp [hseen]
    · simp [hother]
  · next hnew =>
    refine ⟨rfl, ?_⟩
    simp only [Bool.or_eq_true, not_or, Bool.not_eq_true, Dict.contains_eq_isSome,
      Option.isSome_eq_false_iff, Option.isNone_iff_eq_none] at hnew
    by_cases hother : other = id
    · subst hother
      simp [hnew.1, hnew.2]
    · simp [hother]

/-- Noting several ids keeps what is known of every id, and adds the time of those that are new. -/
theorem Sightings.noteEach_exact (s : Sightings) (now : Instant) (ids : List String) :
    (s.noteEach now ids).modeled = s.modeled ∧
      ∀ id, (s.noteEach now ids).potential.get? id =
        (s.potential.get? id).or
          (if id ∈ ids ∧ s.isModeled id = false then some now else none) := by
  induction ids generalizing s with
  | nil => simp [noteEach]
  | cons first rest ih =>
    obtain ⟨hmodeled, hpotential⟩ := ih (s.note first now)
    obtain ⟨hfirst, -⟩ := s.note_exact first first now
    have hkept (id : String) : (s.note first now).isModeled id = s.isModeled id := by
      rw [isModeled, isModeled, hfirst]
    refine ⟨hmodeled.trans hfirst, fun id => ?_⟩
    have hnote := (s.note_exact first id now).2
    refine (hpotential id).trans ?_
    rw [hnote, hkept, Option.or_assoc]
    congr 1
    by_cases hid : id = first
    · subst hid
      by_cases hseen : s.isModeled id = false <;> simp [hseen]
    · simp [hid]

/-- A time that is kept after noting several ids is an older one, or that of the notes if the id was
new. -/
theorem Sightings.get?_potential_noteEach_iff {s : Sightings} {now seen : Instant}
    {ids : List String} {id : String} :
    (s.noteEach now ids).potential.get? id = some seen ↔
      s.potential.get? id = some seen ∨
        s.potential.get? id = none ∧ s.isModeled id = false ∧ id ∈ ids ∧ seen = now := by
  rw [(s.noteEach_exact now ids).2 id]
  cases s.potential.get? id with
  | some first => simp
  | none =>
    by_cases hnew : id ∈ ids ∧ s.isModeled id = false
    · simp [hnew.1, hnew.2, eq_comm]
    · rw [if_neg hnew]
      simp only [Option.none_or, reduceCtorEq, true_and, false_or, false_iff]
      exact fun h => hnew ⟨h.2.1, h.1⟩

namespace Pipeline

/-! ## The parts of ingestion -/

/-- Puts several metric writes last among those that wait, and sets their depth if there are any. -/
def appendMetrics (p : Pipeline) (writes : List MetricWrite) : Pipeline :=
  { p with
    metrics := p.metrics ++ writes
    health := { p.health with
      queueDepth :=
        if writes = [] then p.health.queueDepth
        else p.health.queueDepth.insert "metric" (p.metrics.length + writes.length) } }

/-- Metric writes that are appended one by one are appended as a whole. -/
theorem foldl_appendMetric_eq (p : Pipeline) (writes : List MetricWrite) :
    writes.foldl appendMetric p = p.appendMetrics writes := by
  induction writes using List.reverseRecOn with
  | nil => simp [appendMetrics]
  | append_singleton writes w ih =>
    rw [List.foldl_append, ih, List.foldl_cons, List.foldl_nil, appendMetric]
    by_cases hwrites : writes = []
    · simp [appendMetrics, hwrites, Health.setMetricDepth]
    · simp [appendMetrics, hwrites, Health.setMetricDepth, Dict.insert_insert]

/-- Notes in a named target with a state are one change of its sightings. -/
theorem noteAll_eq {p : Pipeline} {name : String} {state : TargetState} (hname : name ≠ "")
    (hstate : p.targets.get? name = some state) (now : Instant) (ids : List String) :
    noteAll name now ids p =
      ({ p with
          targets := p.targets.insert name { state with
            sightings := state.sightings.noteEach now ids } }, .ok ()) := by
  induction ids generalizing p state with
  | nil => simp [noteAll, Sightings.noteEach, Dict.insert_eq_self hstate]
  | cons id ids ih =>
    have hnote : p.note name id now =
        ({ p with
            targets := p.targets.insert name { state with
              sightings := state.sightings.note id now } }, .ok ()) := by
      rw [note, if_neg hname, stateOf_of_get? hstate]
    rw [noteAll, hnote]
    dsimp only
    rw [ih ((Dict.get?_insert ..).trans (if_pos rfl)), Dict.insert_insert]
    rfl

/-! ## Whole lists of samples -/

/-- A sample may reveal a child: it feeds no datapoint, nobody models its resource, and some rule
matches its meter. -/
def Reveals (p : Pipeline) (target : String) (s : Sample) : Prop :=
  p.registry.datapointsFor target s.resourceId s.meter = [] ∧
    p.registry.hasResource target s.resourceId = false ∧
    ∃ rule ∈ p.settings.rules, rule.matchesMeter s.meter = true

instance (p : Pipeline) (target : String) : DecidablePred (p.Reveals target) :=
  fun _ => inferInstanceAs (Decidable (_ ∧ _ ∧ _))

section Samples

variable (p : Pipeline) (target : String)

/-- A sample is unmonitored if it feeds no datapoint. -/
theorem isUnmonitored_eq_decide :
    p.isUnmonitored target = fun s =>
      decide (p.registry.datapointsFor target s.resourceId s.meter = []) := by
  funext s
  rw [isUnmonitored, Bool.eq_iff_iff, List.isEmpty_iff, decide_eq_true_iff]

/-- Only unmonitored samples may reveal a child, and to ask this twice changes nothing. -/
theorem filter_mayReveal_eq (samples : List Sample) :
    (samples.filter (p.isUnmonitored target)).filter (p.mayReveal target) =
      samples.filter fun s => p.Reveals target s := by
  rw [List.filter_filter]
  congr 1
  funext s
  rw [isUnmonitored_eq_decide, mayReveal, Bool.eq_iff_iff, decide_eq_true_iff, Reveals]
  simp [and_comm]

/-- An id is revealed if some sample of it reveals a child. -/
theorem mem_revealed_iff_exists {id : String} {samples : List Sample} :
    id ∈ p.revealed target samples ↔ ∃ s ∈ samples, s.resourceId = id ∧ p.Reveals target s := by
  rw [revealed, filter_mayReveal_eq, List.mem_map]
  simp only [List.mem_filter, decide_eq_true_iff]
  exact exists_congr fun s => by rw [and_assoc, and_comm (a := p.Reveals target s)]

end Samples

/-- **What samples are resolved to.** In every reachable pipeline, samples of a configured target
put last among the waiting metric writes, sample by sample, one write for each datapoint of their
resource and meter, in the order of the registry, with the volume of the sample and the earlier of
its time and now. The answer counts the samples, the writes, the samples without a datapoint, and
those of them that may reveal a child. The sightings of the target gain, with the time of now, the
resources of the latter that were neither seen nor modeled; and nothing else changes but
counters. -/
theorem samples_resolved_exactly {p : Pipeline} (hp : p.Reachable) {target : String}
    (hconfigured : p.hasTarget target = true) (now : Instant) (samples : List Sample) :
    let writes : List MetricWrite := samples.flatMap fun s =>
      (p.registry.datapointsFor target s.resourceId s.meter).map fun datapoint =>
        { datapoint, value := s.volume, time := if now < s.time then now else s.time }
    let unmonitored := samples.countP fun s =>
      p.registry.datapointsFor target s.resourceId s.meter = []
    ∃ state sightings, p.targets.get? target = some state ∧
      sightings.modeled = state.sightings.modeled ∧
      (∀ id seen, sightings.potential.get? id = some seen ↔
        state.sightings.potential.get? id = some seen ∨
          state.sightings.potential.get? id = none ∧ state.sightings.isModeled id = false ∧
            (∃ s ∈ samples, s.resourceId = id ∧ p.Reveals target s) ∧ seen = now) ∧
      p.ingestSamples target now samples =
        ({ p with
            metrics := p.metrics ++ writes
            targets := p.targets.insert target { state with sightings }
            health := { p.health with
              queueDepth :=
                if writes = [] then p.health.queueDepth
                else p.health.queueDepth.insert "metric" (p.metrics.length + writes.length)
              samplesReceived := p.health.samplesReceived + samples.length
              samplesUnmonitored := p.health.samplesUnmonitored + unmonitored } },
          .ok
            { accepted := samples.length
              writes := writes.length
              unmonitored
              potential := samples.countP fun s => p.Reveals target s }) := by
  intro writes unmonitored
  have hname : target ≠ "" := hp.ne_of_hasTarget hconfigured
  obtain ⟨pushed, hconsistent⟩ := hp.exists_consistentAt target
  obtain ⟨state, hstate, -⟩ := hconsistent.configured hconfigured
  refine ⟨state, state.sightings.noteEach now (p.revealed target samples), hstate,
    (state.sightings.noteEach_exact now _).1, fun id seen => ?_, ?_⟩
  · rw [Sightings.get?_potential_noteEach_iff, p.mem_revealed_iff_exists target]
  · have hunmonitored : unmonitored = (samples.filter (p.isUnmonitored target)).length := by
      rw [isUnmonitored_eq_decide, ← List.countP_eq_length_filter]
    have hpotential : samples.countP (fun s => p.Reveals target s) =
        ((samples.filter (p.isUnmonitored target)).filter (p.mayReveal target)).length := by
      rw [List.countP_eq_length_filter, filter_mayReveal_eq]
    have hwritten : (p.appendMetrics writes).targets.get? target = some state := hstate
    rw [hpotential, hunmonitored, ingestSamples, if_neg (by simp [hconfigured])]
    dsimp only
    rw [foldl_appendMetric_eq, show samples.flatMap (p.writesOf target now) = writes from rfl,
      noteAll_eq hname hwritten]
    rfl

/-- A push tells that the processor of the virtual machine feeds two datapoints. -/
def meteredCalls : List Call :=
  [.applyConfig "site"
      { datasources :=
          [{ resourceId := "vm", component := "server-vm", componentKind := "Instance"
             meters := .ofList
               [("cpu",
                 [{ id := "load", name := "vm_load", path := "load" },
                  { id := "total", name := "vm_total", path := "total", kind := .counter }])] }] }]

/-- The processor reports twice, once ahead of the clock; a meter of the machine feeds nothing; and
the traffic of an interface that nobody models is seen twice, beside a meter that no rule knows. -/
def mixedSamples : List Sample :=
  [{ resourceId := "vm", meter := "cpu", volume := .notANumber, time := .ofSeconds 19000 },
    { resourceId := "vm", meter := "memory", volume := .notANumber, time := .ofSeconds 19000 },
    { resourceId := "tap-vm-eth0", meter := "network.incoming.bytes", volume := .notANumber
      time := .ofSeconds 19000 },
    { resourceId := "vm", meter := "cpu", volume := .notANumber, time := .ofSeconds 19090 },
    { resourceId := "tap-vm-eth0", meter := "network.incoming.bytes", volume := .notANumber
      time := .ofSeconds 19000 },
    { resourceId := "tap-vm-eth0", meter := "temperature", volume := .notANumber
      time := .ofSeconds 19000 }]

/-- Of the six samples two lead to two writes each, the later ones at the time of the clock; of the
four others two may reveal the interface, which is noted once. -/
theorem site_samples_resolved :
    let p := (fresh {}).after meteredCalls
    let outcome := p.ingestSamples "site" (.ofSeconds 19010) mixedSamples
    outcome.2 = .ok { accepted := 6, writes := 4, unmonitored := 4, potential := 2 } ∧
    (outcome.1.metrics.map fun w => (w.datapoint.id, w.time)) =
      [("load", .ofSeconds 19000), ("total", .ofSeconds 19000),
        ("load", .ofSeconds 19010), ("total", .ofSeconds 19010)] ∧
    (outcome.1.stateOf "site").sightings.potential.get? "tap-vm-eth0" =
      some (.ofSeconds 19010) := by
  intro p outcome
  have hp : p.Reachable := (Reachable.fresh {}).after meteredCalls
  have hconfigured : p.hasTarget "site" = true := by decide
  obtain ⟨state, sightings, hstate, -, hsightings, houtcome⟩ :=
    samples_resolved_exactly hp hconfigured (.ofSeconds 19010) mixedSamples
  have hunseen : (p.stateOf "site").sightings = {} := by decide
  rw [stateOf_of_get? hstate] at hunseen
  have hseen : sightings.potential.get? "tap-vm-eth0" = some (.ofSeconds 19010) := by
    rw [hsightings, hunseen]
    exact .inr ⟨rfl, rfl, by decide, rfl⟩
  have houtcome : outcome = _ := houtcome
  rw [houtcome]
  refine ⟨congrArg Except.ok (by decide), by dsimp only; decide, ?_⟩
  rw [stateOf_of_get? ((Dict.get?_insert ..).trans (if_pos rfl))]
  exact hseen

end Pipeline

end CloudCollector
