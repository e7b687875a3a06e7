import CloudCollector.Proofs.Discovery.Emission
import CloudCollector.Proofs.Pipeline.Run

/-!
# The sightings of a target in a run of a pipeline

A pipeline notes an id when it is told to, or when samples of a configured target may reveal a
child; a discovery goes over the sightings of every target. So what a run of a pipeline does to the
sightings of one target is a run of notes and discoveries of its own. That run begins anew whenever
the state of the target is forgotten, by a removal or by a drain.
-/

namespace CloudCollector.Pipeline

/-! ## What a discovery finds -/

/-- The discovery in one target, as a call on its sightings. -/
def discoveryOf (p : Pipeline) (now : Instant) (target : String) : Sightings.Call :=
  .discover p.registry target p.settings.rules now p.settings.horizon

/-- The ids that a discovery recognizes in one target, each with the record of its child. -/
def discovered (p : Pipeline) (now : Instant) (target : String) : List (String × Record) :=
  (p.stateOf target).sightings.matched p.registry target p.settings.rules now p.settings.horizon

/-- A target without a state has no sightings. -/
theorem sightings_stateOf_of_none {p : Pipeline} {target : String}
    (h : p.targets.get? target = none) : (p.stateOf target).sightings = {} := by
  rw [stateOf, Dict.getD, h]
  rfl

/-- A discovery queues the record of each id that it recognizes, and marks the id. -/
theorem get?_targets_discover_eq (p : Pipeline) (now : Instant) (target : String) :
    (p.discover now).1.targets.get? target =
      (p.targets.get? target).map fun state =>
        { sightings := state.sightings.perform (p.discoveryOf now target)
          queue := (p.discovered now target).foldl (fun queue found => queue.append now found.2)
            state.queue } := by
  rw [get?_targets_discover]
  cases hstate : p.targets.get? target with
  | none => rfl
  | some state =>
    rw [Option.map_some, Option.map_some, discovered, stateOf_of_get? hstate,
      ← List.foldl_map (f := fun found : String × Record => found.2)]
    rfl

/-- Whether a discovery queues the record of a child that it recognizes by an id: the record is
among those that the sightings of the target yield and the discovery appends to the queue there, and
the id is the resource that the record tells. -/
def Queues (p : Pipeline) (now : Instant) (target id : String) (record : Record) : Prop :=
  ∃ state, p.targets.get? target = some state ∧
    let records := (state.sightings.discover p.registry target p.settings.rules now
      p.settings.horizon).2
    ((p.discover now).1.targets.get? target).map (·.queue) =
        some (records.foldl (fun queue r => queue.append now r) state.queue) ∧
      record ∈ records ∧ record.fields.get? "resourceId" = some (.string id)

/-- What a discovery recognizes is what it queues. -/
theorem queues_iff {p : Pipeline} {now : Instant} {target id : String} {record : Record} :
    p.Queues now target id record ↔ (id, record) ∈ p.discovered now target := by
  constructor
  · rintro ⟨state, hstate, -, hrecord, hid⟩
    obtain ⟨⟨other, record⟩, hfound, rfl⟩ := List.mem_map.mp hrecord
    have htold := Sightings.resourceId_of_matchCandidate (Sightings.mem_matched_iff.mp hfound).2
    obtain rfl : other = id := Json.string.inj (Option.some.inj (htold.symm.trans hid))
    rwa [discovered, stateOf_of_get? hstate]
  · intro hfound
    cases hstate : p.targets.get? target with
    | none =>
      rw [discovered, sightings_stateOf_of_none hstate] at hfound
      cases hfound
    | some state =>
      rw [discovered, stateOf_of_get? hstate] at hfound
      refine ⟨state, hstate, ?_, List.mem_map.mpr ⟨_, hfound, rfl⟩,
        Sightings.resourceId_of_matchCandidate (Sightings.mem_matched_iff.mp hfound).2⟩
      rw [get?_targets_discover, hstate]
      rfl

/-! ## What a call does to sightings -/

/-- Samples may reveal an id that the registry does not know and whose meter some rule matches. -/
theorem mem_revealed_iff {p : Pipeline} {target id : String} {samples : List Sample} :
    id ∈ p.revealed target samples ↔
      p.registry.hasResource target id = false ∧
        ∃ sample ∈ samples, sample.resourceId = id ∧
          ∃ rule ∈ p.settings.rules, rule.matchesMeter sample.meter = true := by
  have hunmonitored : ∀ sample : Sample,
      p.registry.hasResource target sample.resourceId = false →
        p.isUnmonitored target sample = true := by
    intro sample hunknown
    have hresource : p.registry.resource? target sample.resourceId = none := by
      rwa [Registry.hasResource, Option.isSome_eq_false_iff, Option.isNone_iff_eq_none] at hunknown
    rw [isUnmonitored, Registry.datapointsFor, hresource]
    rfl
  have hreveals : ∀ sample : Sample, p.mayReveal target sample = true ↔
      p.registry.hasResource target sample.resourceId = false ∧
        ∃ rule ∈ p.settings.rules, rule.matchesMeter sample.meter = true := by
    intro sample
    rw [mayReveal, Bool.and_eq_true, Bool.not_eq_true', List.any_eq_true]
  simp only [revealed, List.mem_map, List.mem_filter, hreveals]
  constructor
  · rintro ⟨sample, ⟨⟨hsample, -⟩, hunknown, hrule⟩, rfl⟩
    exact ⟨hunknown, sample, hsample, rfl, hrule⟩
  · rintro ⟨hunknown, sample, hsample, rfl, hrule⟩
    exact ⟨sample, ⟨⟨hsample, hunmonitored sample hunknown⟩, hunknown, hrule⟩, rfl⟩

/-- What a call does to the sightings of a target, as notes and discoveries. -/
def Call.onSightings (p : Pipeline) (target : String) : Call → List Sightings.Call
  | .note name id now => if name = target ∧ name ≠ "" then [.note id now] else []
  | .ingestSamples name now samples =>
    if name = target ∧ name ≠ "" ∧ p.hasTarget name = true then
      (p.revealed name samples).map fun id => .note id now
    else []
  | .discover now => [p.discoveryOf now target]
  | _ => []

/-- A call notes an id in a target if it says so, or if it has a sample that may reveal the id. -/
theorem Call.note_mem_onSightings {p : Pipeline} {target id : String} {seen : Instant}
    {call : Call} (h : .note id seen ∈ call.onSightings p target) :
    call = .note target id seen ∨
      ∃ samples, call = .ingestSamples target seen samples ∧ id ∈ p.revealed target samples := by
  cases call with
  | note name other now =>
    rw [onSightings] at h
    split at h
    · next hname =>
      obtain ⟨rfl, rfl⟩ := Sightings.Call.note.inj (List.mem_singleton.mp h)
      exact .inl (by rw [hname.1])
    · cases h
  | ingestSamples name now samples =>
    rw [onSightings] at h
    split at h
    · next hname =>
      obtain ⟨other, hother, heq⟩ := List.mem_map.mp h
      obtain ⟨rfl, rfl⟩ := Sightings.Call.note.inj heq
      obtain ⟨rfl, -⟩ := hname
      exact .inr ⟨samples, rfl, hother⟩
    · cases h
  | discover now => cases List.mem_singleton.mp h
  | _ => cases h

/-- A call that does not concern a target does nothing to its sightings. -/
theorem Call.onSightings_of_not_concerns {p : Pipeline} {target : String} {call : Call}
    (h : call.concerns target = false) : call.onSightings p target = [] := by
  obtain ⟨hsweep, hname⟩ := concerns_eq_false_iff.mp h
  cases call with
  | note name id now => exact if_neg fun hcall => hname (congrArg some hcall.1)
  | ingestSamples name now samples => exact if_neg fun hcall => hname (congrArg some hcall.1)
  | discover now => exact absurd rfl hsweep
  | _ => rfl

section Operations

variable {p : Pipeline} {target : String}

/-- A push does nothing to the sightings of its target. -/
theorem sightings_applyConfig (config : TargetConfig) :
    ((p.applyConfig target config).1.stateOf target).sightings =
      (p.stateOf target).sightings := by
  unfold applyConfig
  split
  · rfl
  · have hstate := get?_targets_retune (p.register target config) target target config.queue
    rw [if_pos rfl] at hstate
    refine (congrArg TargetState.sightings (stateOf_of_get? hstate)).trans ?_
    cases hold : p.targets.get? target with
    | none =>
      have hregistered : (p.register target config).targets.get? target = none := hold
      rw [hregistered, sightings_stateOf_of_none hold]
      rfl
    | some state =>
      have hregistered : (p.register target config).targets.get? target = some state := hold
      rw [hregistered, stateOf_of_get? hold]
      rfl

/-- A record does nothing to the sightings of its target. -/
theorem sightings_appendRecord (now : Instant) (record : Option Record) :
    ((p.appendRecord target now record).1.stateOf target).sightings =
      (p.stateOf target).sightings := by
  cases record with
  | none => rfl
  | some r =>
    simp only [appendRecord]
    cases checkRecord target r with
    | error cause => rfl
    | ok _ =>
      have hstate := (get?_targets_enqueue p target target now r).trans (if_pos rfl)
      rw [stateOf_of_get? hstate]

/-- A note under a name is one of the sightings. -/
theorem sightings_note (id : String) (now : Instant) (hname : target ≠ "") :
    ((p.note target id now).1.stateOf target).sightings =
      (p.stateOf target).sightings.note id now := by
  have hstate := (get?_targets_note p target target id now).trans (if_pos ⟨rfl, hname⟩)
  rw [stateOf_of_get? hstate]

/-- Where the target has a name, every id is noted. -/
theorem sightings_noteAll (now : Instant) (ids : List String) (hname : target ≠ "") :
    ((noteAll target now ids p).1.stateOf target).sightings =
      (p.stateOf target).sightings.after (ids.map fun id => .note id now) := by
  induction ids generalizing p with
  | nil => rfl
  | cons id ids ih =>
    have haccepted : (p.note target id now).2 = .ok () := by rw [note, if_neg hname]
    have hnote : p.note target id now = ((p.note target id now).1, .ok ()) :=
      Prod.ext rfl haccepted
    rw [noteAll, hnote, List.map_cons, Sightings.after_cons, Sightings.perform,
      ← sightings_note id now hname]
    exact ih

/-- Under an empty name nothing is noted. -/
theorem noteAll_fst_empty (now : Instant) (ids : List String) :
    (noteAll "" now ids p).1 = p := by
  cases ids <;> rfl

/-- Samples note the ids that they may reveal. -/
theorem sightings_ingestSamples (now : Instant) (samples : List Sample) :
    ((p.ingestSamples target now samples).1.stateOf target).sightings =
      (p.stateOf target).sightings.after
        ((Call.ingestSamples target now samples).onSightings p target) := by
  rw [Call.onSightings]
  cases hconfigured : p.hasTarget target with
  | false =>
    rw [ingestSamples_of_not_hasTarget hconfigured, if_neg (by simp), Sightings.after_nil]
  | true =>
    rw [(sameAt_ingestSamples_noteAll hconfigured target now samples).stateOf_eq]
    by_cases hname : target = ""
    · subst hname
      rw [noteAll_fst_empty, if_neg (by simp), Sightings.after_nil]
    · rw [sightings_noteAll now _ hname, if_pos ⟨rfl, hname, rfl⟩]

/-- An event does nothing to the sightings of its target. -/
theorem sightings_ingestEvent (now : Instant) (e : Event) :
    ((p.ingestEvent target now e).1.stateOf target).sightings =
      (p.stateOf target).sightings := by
  obtain ⟨record, happend⟩ := exists_sameAt_ingestEvent p target now e
  rw [(happend target).stateOf_eq, sightings_appendRecord]

/-- If a call leaves a target with a state, it does to the sightings what it does to them as a
run. -/
theorem sightings_perform_of_get? {call : Call} {state : TargetState}
    (h : (p.perform call).targets.get? target = some state) :
    state.sightings = (p.stateOf target).sightings.after (call.onSightings p target) := by
  have hstate : (p.perform call).stateOf target = state := stateOf_of_get? h
  by_cases hname : call.target? = some target
  · rw [← hstate]
    cases call with
    | applyConfig name config =>
      cases hname
      exact sightings_applyConfig config
    | removeTarget name =>
      cases hname
      rw [show (p.perform (.removeTarget target)).targets.get? target = none from
        (get?_targets_removeTarget p target target).trans (if_pos rfl)] at h
      cases h
    | appendRecord name now record =>
      cases hname
      exact sightings_appendRecord now record
    | note name id now =>
      cases hname
      rw [Call.onSightings]
      by_cases hempty : target = ""
      · subst hempty
        rfl
      · rw [if_pos ⟨rfl, hempty⟩]
        exact sightings_note id now hempty
    | ingestSamples name now samples =>
      cases hname
      exact sightings_ingestSamples now samples
    | ingestEvent name now event =>
      cases hname
      exact sightings_ingestEvent now event
    | _ => cases hname
  by_cases hsweep : call.isSweep = true
  · cases call with
    | drain now =>
      have hkept := h
      rw [perform, step, Prod.map_fst, id, get?_targets_drain, Option.filter_eq_some_iff,
        Option.map_eq_some_iff] at hkept
      obtain ⟨⟨old, hold, rfl⟩, -⟩ := hkept
      rw [stateOf_of_get? hold]
      rfl
    | discover now =>
      have hfound := h
      rw [perform, step, Prod.map_fst, id, get?_targets_discover_eq,
        Option.map_eq_some_iff] at hfound
      obtain ⟨old, hold, rfl⟩ := hfound
      rw [stateOf_of_get? hold]
      rfl
    | _ => cases hsweep
  · have hcall := Call.concerns_eq_false_iff.mpr ⟨hsweep, hname⟩
    rw [← hstate, (sameAt_perform_of_not_concerns hcall).stateOf_eq,
      Call.onSightings_of_not_concerns hcall, Sightings.after_nil]

end Operations

/-! ## Runs -/

/-- A run up to a call, with what it did to the sightings of a target since its state began. -/
def recordSightings (target : String) (run : Pipeline × List Sightings.Call) (call : Call) :
    Pipeline × List Sightings.Call :=
  let next := run.1.perform call
  (next, if next.targets.contains target then run.2 ++ call.onSightings run.1 target else [])

/-- What a run does to the sightings of a target since its state last began. -/
def sightingHistory (p : Pipeline) (target : String) (calls : List Call) : List Sightings.Call :=
  (calls.foldl (recordSightings target) (p, [])).2

section Run

variable (p : Pipeline) (target : String)

/-- Beside the history the pipeline goes through its calls. -/
theorem fst_foldl_recordSightings (calls : List Call) :
    (calls.foldl (recordSightings target) (p, [])).1 = p.after calls := by
  induction calls using List.reverseRecOn with
  | nil => rfl
  | append_singleton calls call ih =>
    rw [List.foldl_append, List.foldl_cons, List.foldl_nil, recordSightings, ih, after_concat]

/-- The last call adds to the history of a target if it leaves the target with a state; otherwise
the history begins anew. -/
theorem sightingHistory_concat (calls : List Call) (call : Call) :
    p.sightingHistory target (calls ++ [call]) =
      if (p.after (calls ++ [call])).targets.contains target then
        p.sightingHistory target calls ++ call.onSightings (p.after calls) target
      else [] := by
  rw [sightingHistory, List.foldl_append, List.foldl_cons, List.foldl_nil, recordSightings,
    fst_foldl_recordSightings, ← sightingHistory, after_concat]

/-- What happened to the sightings of a target happened in some call of the run. -/
theorem exists_call_of_mem_sightingHistory {calls : List Call} {done : Sightings.Call}
    (h : done ∈ p.sightingHistory target calls) :
    ∃ before call rest, calls = before ++ call :: rest ∧
      done ∈ call.onSightings (p.after before) target := by
  induction calls using List.reverseRecOn with
  | nil => cases h
  | append_singleton calls call ih =>
    rw [sightingHistory_concat] at h
    split at h
    · rcases List.mem_append.mp h with hold | hnew
      · obtain ⟨before, earlier, rest, rfl, hdone⟩ := ih hold
        exact ⟨before, earlier, rest ++ [call], by simp, hdone⟩
      · exact ⟨calls, call, [], rfl, hnew⟩
    · cases h

end Run

/-- The sightings of a target are what its history makes of none. -/
theorem sightings_after (settings : Settings) (target : String) (calls : List Call) :
    (((fresh settings).after calls).stateOf target).sightings =
      Sightings.after {} ((fresh settings).sightingHistory target calls) := by
  induction calls using List.reverseRecOn with
  | nil => rfl
  | append_singleton calls call ih =>
    rw [sightingHistory_concat, Dict.contains_eq_isSome]
    cases hstate : ((fresh settings).after (calls ++ [call])).targets.get? target with
    | none => exact sightings_stateOf_of_none hstate
    | some state =>
      rw [stateOf_of_get? hstate, Option.isSome_some, if_pos rfl, Sightings.after_append, ← ih]
      rw [after_concat] at hstate
      exact sightings_perform_of_get? hstate

end CloudCollector.Pipeline
