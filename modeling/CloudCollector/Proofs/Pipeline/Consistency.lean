import CloudCollector.Pipeline.Snapshot
import CloudCollector.Proofs.Pipeline.Run
import CloudCollector.Proofs.Queue.Run
import Mathlib.Data.List.Induction

/-!
# The two stores of a pipeline stay in step

A pipeline keeps what is known about the targets apart from their states. A push writes both, a
removal erases both, and a state appears by itself when something arrives for a target that nobody
configured. Whatever the order of the calls, the stores stay in step: each configured target has a
state, with the tuning of its last push, and every other state has the default tuning. So a
snapshot, which reads both, tells the truth about each target.
-/

namespace CloudCollector

/-! ## Queues that file their entries well -/

/-- A queue files each entry under the id of its record, and none of them is empty. -/
structure Queue.WellFiled (q : Queue) : Prop where
  keyed : q.Keyed
  named : q.held.get? "" = none

namespace Queue.WellFiled

variable {q : Queue}

/-- An empty queue is well filed. -/
theorem fresh (tuning : Tuning) : (Queue.fresh tuning).WellFiled :=
  ⟨keyed_fresh tuning, rfl⟩

/-- A queue stays well filed when it is tuned. -/
theorem setTuning (hq : q.WellFiled) (tuning : Tuning) : (q.setTuning tuning).WellFiled :=
  ⟨hq.keyed, hq.named⟩

/-- A queue stays well filed when a record of a named entity joins it. -/
theorem append (hq : q.WellFiled) (now : Instant) {r : Record} (hr : r.targetId ≠ "") :
    (q.append now r).WellFiled := by
  refine ⟨hq.keyed.perform (.append now r), ?_⟩
  rw [get?_held_append, if_neg hr.symm, hq.named]

/-- A queue stays well filed when records of named entities join it. -/
theorem appendAll (hq : q.WellFiled) (now : Instant) {records : List Record}
    (hrecords : ∀ r ∈ records, r.targetId ≠ "") :
    (records.foldl (fun queue r => queue.append now r) q).WellFiled := by
  induction records generalizing q with
  | nil => exact hq
  | cons r rest ih =>
    exact ih (hq.append now (hrecords r List.mem_cons_self))
      fun r' hr' => hrecords r' (List.mem_cons_of_mem _ hr')

/-- A queue stays well filed when it is drained. -/
theorem drain (hq : q.WellFiled) (now : Instant) : (q.drain now).1.WellFiled := by
  refine ⟨hq.keyed.perform (.drain now), ?_⟩
  rw [get?_held_drain, hq.named]
  rfl

/-- The id of each waiting record is the one that it is filed under, and not empty. -/
theorem targetId_eq (hq : q.WellFiled) {id : String} {h : Held} (hheld : q.held.get? id = some h) :
    h.record.targetId = id ∧ id ≠ "" := by
  refine ⟨hq.keyed id h hheld, ?_⟩
  rintro rfl
  rw [hq.named] at hheld
  cases hheld

end Queue.WellFiled

/-- Records that join a queue do not tune it. -/
theorem Queue.tuning_appendAll (q : Queue) (now : Instant) (records : List Record) :
    (records.foldl (fun queue r => queue.append now r) q).tuning = q.tuning := by
  induction records generalizing q with
  | nil => rfl
  | cons r rest ih => exact ih (q.append now r)

/-! ## Records of children -/

/-- The id of a child is never empty: it contains two dashes. -/
theorem Rule.targetId_childRecord_ne (rule : Rule) (candidate parent component suffix : String) :
    (rule.childRecord candidate parent component suffix).targetId ≠ "" := by
  have hid : (rule.childRecord candidate parent component suffix).targetId =
      rule.childIdPrefix ++ "-" ++ parent ++ "-" ++ suffix := rfl
  rw [hid]
  simp

namespace Sightings

/-- The record of a matched candidate names its entity. -/
theorem targetId_ne_of_matchCandidate {registry : Registry} {target candidate : String}
    {rules : List Rule} {r : Record}
    (h : matchCandidate registry target rules candidate = some r) : r.targetId ≠ "" := by
  obtain ⟨rule, -, hrule⟩ := List.exists_of_findSome?_eq_some h
  obtain ⟨parent, -, hparent⟩ := List.exists_of_findSome?_eq_some hrule
  obtain ⟨suffix, -, hsuffix⟩ := Option.bind_eq_some_iff.mp hparent
  obtain ⟨component, -, hr⟩ := Option.bind_eq_some_iff.mp hsuffix
  obtain rfl := Option.some.inj hr
  exact rule.targetId_childRecord_ne candidate parent component suffix

/-- Every record that a discovery emits names its entity. -/
theorem targetId_ne_of_mem_discover {s : Sightings} {registry : Registry} {target : String}
    {rules : List Rule} {now : Instant} {horizon : Span} {r : Record}
    (h : r ∈ (s.discover registry target rules now horizon).2) : r.targetId ≠ "" := by
  obtain ⟨⟨id, record⟩, hfound, rfl⟩ := List.mem_map.mp h
  obtain ⟨candidate, -, hcandidate⟩ := List.mem_filterMap.mp hfound
  obtain ⟨found, hmatch, hpair⟩ := Option.map_eq_some_iff.mp hcandidate
  obtain ⟨-, rfl⟩ := Prod.mk.inj hpair
  exact targetId_ne_of_matchCandidate hmatch

end Sightings

namespace Pipeline

/-! ## Pushes -/

/-- The tuning that a call pushes to a target, if the push is accepted. -/
def Call.push? (target : String) : Call → Option Tuning
  | .applyConfig name config =>
    if name = target then (checkConfig name config).toOption.map fun _ => config.queue else none
  | _ => none

/-- The tuning of the last accepted push to a target. -/
def lastPush? (target : String) (calls : List Call) : Option Tuning :=
  calls.reverse.findSome? (Call.push? target)

/-- The last push to a target is the last call, if this is one, or else the last push before. -/
theorem lastPush?_concat (target : String) (calls : List Call) (call : Call) :
    lastPush? target (calls ++ [call]) = (call.push? target).or (lastPush? target calls) := by
  rw [lastPush?, List.reverse_append, List.reverse_singleton, List.singleton_append,
    List.findSome?_cons, ← lastPush?]
  cases call.push? target <;> rfl

/-- Whether a push is accepted depends on the push alone, not on the pipeline that takes it. -/
theorem applyConfig_result (p : Pipeline) (target : String) (config : TargetConfig) :
    (p.applyConfig target config).2 = checkConfig target config := by
  unfold applyConfig
  cases checkConfig target config <;> rfl

/-- An accepted push names its target, and its tuning holds. -/
theorem checkConfig_eq_ok_iff {target : String} {config : TargetConfig} :
    checkConfig target config = .ok () ↔ target ≠ "" ∧ config.queue.validate = .ok () := by
  unfold checkConfig
  split
  · next h => simp [h]
  · next h => cases hvalid : config.queue.validate <;> simp [h, Except.mapError]

/-- An accepted record names its entity, and its target has a name. -/
theorem checkRecord_eq_ok_iff {target : String} {r : Record} :
    checkRecord target r = .ok () ↔ target ≠ "" ∧ r.targetId ≠ "" := by
  unfold checkRecord
  split
  · next h => simp [h]
  · next h => split <;> simp_all

/-- A call tunes a target if it is an accepted push to it. -/
theorem Call.push?_eq_some_iff {target : String} {call : Call} {tuning : Tuning} :
    call.push? target = some tuning ↔
      ∃ config, call = .applyConfig target config ∧ checkConfig target config = .ok () ∧
        config.queue = tuning := by
  cases call with
  | applyConfig name config =>
    by_cases hname : name = target
    · subst hname
      cases hcheck : checkConfig name config <;> simp [push?, hcheck, Except.toOption]
    · simp [push?, hname]
  | _ => simp [push?]

/-- A push tunes its target if it is accepted. -/
theorem Call.push?_applyConfig (target : String) (config : TargetConfig) :
    (Call.applyConfig target config).push? target =
      (checkConfig target config).toOption.map fun _ => config.queue :=
  if_pos rfl

/-- A call that does not name a target pushes nothing to it. -/
theorem Call.push?_eq_none {target : String} {call : Call} (h : call.target? ≠ some target) :
    call.push? target = none := by
  rw [Option.eq_none_iff_forall_ne_some]
  intro tuning hpush
  obtain ⟨config, rfl, -⟩ := push?_eq_some_iff.mp hpush
  exact h rfl

/-- The tuning of the last push of a target holds. -/
theorem validate_of_lastPush? {target : String} {calls : List Call} {tuning : Tuning}
    (h : lastPush? target calls = some tuning) : tuning.validate = .ok () := by
  obtain ⟨call, -, hpush⟩ := List.exists_of_findSome?_eq_some h
  obtain ⟨config, -, hcheck, rfl⟩ := Call.push?_eq_some_iff.mp hpush
  exact (checkConfig_eq_ok_iff.mp hcheck).2

/-! ## Consistency at a target -/

/-- What a pipeline knows about a target and the state of the target are in step, where `pushed` is
the tuning of the last push. -/
structure ConsistentAt (target : String) (pushed : Option Tuning) (p : Pipeline) : Prop where
  /-- A configured target has a state, with the tuning of its last push. -/
  configured : p.hasTarget target = true →
    ∃ state, p.targets.get? target = some state ∧ pushed = some state.queue.tuning
  /-- The state of any other target has the default tuning. -/
  unconfigured : p.hasTarget target = false →
    ∀ state, p.targets.get? target = some state → state.queue.tuning = p.settings.defaultTuning
  named : ∀ state, p.targets.get? target = some state → target ≠ ""
  filed : ∀ state, p.targets.get? target = some state → state.queue.WellFiled

section Step

variable {target : String} {pushed : Option Tuning} {p q : Pipeline}

/-- Consistency is seen from the target alone. -/
theorem ConsistentAt.congr (hp : p.ConsistentAt target pushed) (h : SameAt target q p) :
    q.ConsistentAt target pushed := by
  refine ⟨?_, ?_, ?_, ?_⟩
  · rw [h.hasTarget_eq, h.state]
    exact hp.configured
  · rw [h.hasTarget_eq, h.state, h.settings]
    exact hp.unconfigured
  · rw [h.state]
    exact hp.named
  · rw [h.state]
    exact hp.filed

/-- The state of a target has the tuning of the last push or the default tuning. -/
theorem ConsistentAt.tuning_eq_or (hp : p.ConsistentAt target pushed) {state : TargetState}
    (hstate : p.targets.get? target = some state) :
    pushed = some state.queue.tuning ∨ state.queue.tuning = p.settings.defaultTuning := by
  cases hconfigured : p.hasTarget target with
  | true =>
    obtain ⟨old, hold, hpushed⟩ := hp.configured hconfigured
    obtain rfl := Option.some.inj (hold.symm.trans hstate)
    exact .inl hpushed
  | false => exact .inr (hp.unconfigured hconfigured state hstate)

/-- A target that is neither known nor has a state is consistent whatever was pushed. -/
theorem consistentAt_of_absent (hknown : p.registry.targets.get? target = none)
    (hstate : p.targets.get? target = none) (pushed : Option Tuning) :
    p.ConsistentAt target pushed := by
  have hconfigured : p.hasTarget target = false := by
    rw [hasTarget_eq_isSome, hknown, Option.isSome_none]
  have hstateless : ∀ state, p.targets.get? target ≠ some state := by simp [hstate]
  exact ⟨fun h => absurd h (by simp [hconfigured]), fun _ state h => absurd h (hstateless state),
    fun state h => absurd h (hstateless state), fun state h => absurd h (hstateless state)⟩

/-- Where the stores are in step, the queue that an operation starts from is well filed. -/
theorem ConsistentAt.filed_stateOf (hp : p.ConsistentAt target pushed) :
    (p.stateOf target).queue.WellFiled := by
  rw [stateOf, Dict.getD]
  cases hstate : p.targets.get? target with
  | none => exact .fresh p.settings.defaultTuning
  | some state => exact hp.filed state hstate

/-- A state that something arrived for keeps its tuning, or has the default one if it is new. -/
theorem ConsistentAt.of_arrival (hp : p.ConsistentAt target pushed) (hname : target ≠ "")
    (hsettings : q.settings = p.settings)
    (hknown : q.registry.targets.get? target = p.registry.targets.get? target)
    {state : TargetState} (hstate : q.targets.get? target = some state)
    (htuning : state.queue.tuning = (p.stateOf target).queue.tuning)
    (hfiled : state.queue.WellFiled) : q.ConsistentAt target pushed := by
  have hconfigured : q.hasTarget target = p.hasTarget target := by
    rw [hasTarget_eq_isSome, hasTarget_eq_isSome, hknown]
  refine ⟨fun h => ⟨state, hstate, ?_⟩, fun h other hother => ?_, fun _ _ => hname,
    fun other hother => ?_⟩
  · obtain ⟨old, hold, hpushed⟩ := hp.configured (hconfigured.symm.trans h)
    rw [hpushed, htuning, stateOf, Dict.getD, hold, Option.getD_some]
  · obtain rfl := Option.some.inj (hstate.symm.trans hother)
    rw [htuning, hsettings, stateOf, Dict.getD]
    cases hold : p.targets.get? target with
    | none => rfl
    | some old => exact hp.unconfigured (hconfigured.symm.trans h) old hold
  · obtain rfl := Option.some.inj (hstate.symm.trans hother)
    exact hfiled

/-- An accepted push brings the state of its target in step; a refused one changes nothing. -/
theorem ConsistentAt.applyConfig (hp : p.ConsistentAt target pushed) (config : TargetConfig) :
    (p.applyConfig target config).1.ConsistentAt target
      (((Call.applyConfig target config).push? target).or pushed) := by
  rw [Call.push?_applyConfig]
  unfold Pipeline.applyConfig
  cases hcheck : checkConfig target config with
  | error cause => exact hp
  | ok _ =>
    have hstate := get?_targets_retune (p.register target config) target target config.queue
    rw [if_pos rfl] at hstate
    have hknown := (get?_known_register p target target config).trans (if_pos rfl)
    have hconfigured :
        ((p.register target config).retune target config.queue).countTargets.hasTarget target =
          true := congrArg Option.isSome hknown
    have hname : target ≠ "" := (checkConfig_eq_ok_iff.mp hcheck).1
    refine ⟨fun _ => ⟨_, hstate, ?_⟩, fun h => ?_, fun _ _ => hname, fun state h => ?_⟩
    · cases (p.register target config).targets.get? target <;> rfl
    · rw [hconfigured] at h
      cases h
    · obtain rfl := Option.some.inj (hstate.symm.trans h)
      cases hold : (p.register target config).targets.get? target with
      | none => exact .fresh config.queue
      | some old => exact (hp.filed old hold).setTuning config.queue

/-- A removal leaves nothing that could be out of step. -/
theorem consistentAt_removeTarget (p : Pipeline) (target : String) (pushed : Option Tuning) :
    (p.removeTarget target).1.ConsistentAt target pushed :=
  consistentAt_of_absent ((get?_known_removeTarget p target target).trans (if_pos rfl))
    ((get?_targets_removeTarget p target target).trans (if_pos rfl)) pushed

/-- The stores stay in step when a record arrives. -/
theorem ConsistentAt.appendRecord (hp : p.ConsistentAt target pushed) (now : Instant)
    (record : Option Record) :
    (p.appendRecord target now record).1.ConsistentAt target pushed := by
  cases record with
  | none => exact hp
  | some r =>
    simp only [Pipeline.appendRecord]
    cases hcheck : checkRecord target r with
    | error cause => exact hp.congr ⟨rfl, rfl, rfl⟩
    | ok _ =>
      obtain ⟨hname, hid⟩ := checkRecord_eq_ok_iff.mp hcheck
      have hstate := (get?_targets_enqueue p target target now r).trans (if_pos rfl)
      exact hp.of_arrival hname rfl rfl hstate rfl (hp.filed_stateOf.append now hid)

/-- The stores stay in step when an id is noted. -/
theorem ConsistentAt.note (hp : p.ConsistentAt target pushed) (id : String) (now : Instant) :
    (p.note target id now).1.ConsistentAt target pushed := by
  have hstate := get?_targets_note p target target id now
  unfold Pipeline.note at hstate ⊢
  by_cases hname : target = ""
  · rw [if_pos hname]
    exact hp
  · rw [if_neg hname] at hstate ⊢
    rw [if_pos ⟨rfl, hname⟩] at hstate
    exact hp.of_arrival hname rfl rfl hstate rfl hp.filed_stateOf

/-- The stores stay in step when ids are noted. -/
theorem ConsistentAt.noteAll (hp : p.ConsistentAt target pushed) (now : Instant)
    (ids : List String) : (noteAll target now ids p).1.ConsistentAt target pushed := by
  induction ids generalizing p with
  | nil => exact hp
  | cons id ids ih =>
    have hnote := hp.note id now
    unfold Pipeline.noteAll
    split
    · next heq =>
      rw [heq] at hnote
      exact ih hnote
    · next heq =>
      rw [heq] at hnote
      exact hnote

/-- A sweep that leaves the tuning of each state as it is, and forgets no state of a configured
target, keeps the stores in step. -/
theorem ConsistentAt.of_sweep (hp : p.ConsistentAt target pushed)
    (hsettings : q.settings = p.settings)
    (hknown : q.registry.targets.get? target = p.registry.targets.get? target)
    (change : TargetState → TargetState)
    (hkept : p.hasTarget target = true →
      q.targets.get? target = (p.targets.get? target).map change)
    (hchanged : ∀ state, q.targets.get? target = some state →
      ∃ old, p.targets.get? target = some old ∧ change old = state)
    (htuning : ∀ old, (change old).queue.tuning = old.queue.tuning)
    (hfiled : ∀ old, old.queue.WellFiled → (change old).queue.WellFiled) :
    q.ConsistentAt target pushed := by
  have hconfigured : q.hasTarget target = p.hasTarget target := by
    rw [hasTarget_eq_isSome, hasTarget_eq_isSome, hknown]
  refine ⟨fun h => ?_, fun h state hstate => ?_, fun state hstate => ?_, fun state hstate => ?_⟩
  · rw [hconfigured] at h
    obtain ⟨old, hold, hpushed⟩ := hp.configured h
    exact ⟨change old, by rw [hkept h, hold, Option.map_some], by rw [hpushed, htuning]⟩
  · obtain ⟨old, hold, rfl⟩ := hchanged state hstate
    rw [htuning, hsettings]
    exact hp.unconfigured (hconfigured.symm.trans h) old hold
  · obtain ⟨old, hold, -⟩ := hchanged state hstate
    exact hp.named old hold
  · obtain ⟨old, hold, rfl⟩ := hchanged state hstate
    exact hfiled old (hp.filed old hold)

/-- The stores stay in step when everything is drained: what is forgotten was not configured. -/
theorem ConsistentAt.drain (hp : p.ConsistentAt target pushed) (now : Instant) :
    (p.drain now).1.ConsistentAt target pushed := by
  obtain ⟨hsettings, hknown⟩ := p.drain_frame now target
  refine hp.of_sweep hsettings hknown (·.drained now) (fun h => ?_) (fun state hstate => ?_)
    (fun _ => rfl) (fun _ hfiled => hfiled.drain now)
  · rw [get?_targets_drain, h]
    cases p.targets.get? target <;> simp
  · rw [get?_targets_drain, Option.filter_eq_some_iff, Option.map_eq_some_iff] at hstate
    exact hstate.1

/-- The stores stay in step when a discovery queues its records. -/
theorem ConsistentAt.discover (hp : p.ConsistentAt target pushed) (now : Instant) :
    (p.discover now).1.ConsistentAt target pushed := by
  refine hp.of_sweep rfl rfl (fun state => (p.discoverIn now target state).1)
    (fun _ => p.get?_targets_discover now target) (fun state hstate => ?_)
    (fun old => old.queue.tuning_appendAll now _)
    (fun _ hfiled => hfiled.appendAll now fun _ => Sightings.targetId_ne_of_mem_discover)
  rw [get?_targets_discover, Option.map_eq_some_iff] at hstate
  exact hstate

/-- Every call keeps the stores in step. -/
theorem ConsistentAt.perform (hp : p.ConsistentAt target pushed) (call : Call) :
    (p.perform call).ConsistentAt target ((call.push? target).or pushed) := by
  by_cases hname : call.target? = some target
  · cases call with
    | applyConfig name config =>
      cases hname
      exact hp.applyConfig config
    | removeTarget name =>
      cases hname
      exact consistentAt_removeTarget p target pushed
    | appendRecord name now record =>
      cases hname
      exact hp.appendRecord now record
    | note name id now =>
      cases hname
      exact hp.note id now
    | ingestSamples name now samples =>
      cases hname
      obtain ⟨ids, hnotes⟩ := exists_sameAt_ingestSamples p target now samples
      exact (hp.noteAll now ids).congr (hnotes target)
    | ingestEvent name now event =>
      cases hname
      obtain ⟨record, happend⟩ := exists_sameAt_ingestEvent p target now event
      exact (hp.appendRecord now record).congr (happend target)
    | _ => cases hname
  · rw [Call.push?_eq_none hname, Option.none_or]
    by_cases hsweep : call.isSweep = true
    · cases call with
      | drain now => exact hp.drain now
      | discover now => exact hp.discover now
      | _ => cases hsweep
    · have hcall := Call.concerns_eq_false_iff.mpr ⟨hsweep, hname⟩
      exact hp.congr (sameAt_perform_of_not_concerns hcall)

end Step

/-- Every run keeps the stores in step. -/
theorem consistentAt_after (settings : Settings) (target : String) (calls : List Call) :
    ((fresh settings).after calls).ConsistentAt target (lastPush? target calls) := by
  induction calls using List.reverseRecOn with
  | nil => exact consistentAt_of_absent rfl rfl none
  | append_singleton calls call ih =>
    rw [after_concat, lastPush?_concat]
    exact ih.perform call

/-! ## Snapshots -/

/-- What a snapshot says about a target: how its state stands, if it has one, and else that it is
empty, if it is configured. -/
theorem get?_targets_snapshot (p : Pipeline) (target : String) :
    p.snapshot.targets.get? target =
      ((p.targets.get? target).map fun state =>
        { configured := p.hasTarget target
          resources := p.registry.resourceCount target
          queue := state.queue.snapshot
          sightings := state.sightings.counts }).or
      ((p.registry.targets.get? target).map fun _ => { configured := true, resources := 0 }) := by
  have hlist : p.snapshot.targets =
      (p.registry.targets.map fun _ _ => { configured := true, resources := 0 }).overlay
        p.stateSnapshots := rfl
  rw [hlist, Dict.get?_overlay, Dict.get?_map, stateSnapshots, Dict.get?_map]
  rfl

/-- A snapshot lists the configured targets and those with a state. -/
theorem contains_targets_snapshot (p : Pipeline) (target : String) :
    p.snapshot.targets.contains target = (p.targets.contains target || p.hasTarget target) := by
  rw [Dict.contains_eq_isSome, get?_targets_snapshot, Option.isSome_or, Option.isSome_map,
    Option.isSome_map]
  rfl

/-- Where the stores are in step, a snapshot tells the truth about a target. -/
theorem ConsistentAt.snapshot_eq {target : String} {pushed : Option Tuning} {p : Pipeline}
    (hp : p.ConsistentAt target pushed) {entry : TargetSnapshot}
    (h : p.snapshot.targets.get? target = some entry) :
    entry.configured = p.hasTarget target ∧
      entry.resources = p.registry.resourceCount target := by
  rw [get?_targets_snapshot] at h
  cases hstate : p.targets.get? target with
  | some state =>
    rw [hstate, Option.map_some, Option.some_or] at h
    obtain rfl := Option.some.inj h
    exact ⟨rfl, rfl⟩
  | none =>
    -- a configured target has a state, so none is listed without one
    rw [hstate, Option.map_none, Option.none_or, Option.map_eq_some_iff] at h
    obtain ⟨ns, hknown, -⟩ := h
    have hconfigured : p.hasTarget target = true := by
      rw [hasTarget_eq_isSome, hknown, Option.isSome_some]
    obtain ⟨state, hsome, -⟩ := hp.configured hconfigured
    rw [hstate] at hsome
    cases hsome

/-! ## All reachable pipelines -/

/-- **The stores stay in step.** After any run from a valid default tuning a configured target has
a state, with the tuning of its last accepted push; the state of any other target has the default
tuning; every tuning is valid; no target that is configured or has a state has an empty name; every
waiting record is filed under its id, which is not empty; and a snapshot lists just the targets
that are configured or have a state, each with whether it is configured and with the number of its
known resources. -/
theorem reachable_consistent (settings : Settings)
    (hdefault : settings.defaultTuning.validate = .ok ()) (calls : List Call) (target : String) :
    let p := (fresh settings).after calls
    (p.hasTarget target = true →
      ∃ state, p.targets.get? target = some state ∧
        lastPush? target calls = some state.queue.tuning) ∧
    (∀ state, p.targets.get? target = some state →
      (p.hasTarget target = false → state.queue.tuning = settings.defaultTuning) ∧
      state.queue.tuning.validate = .ok () ∧
      ∀ id h, state.queue.held.get? id = some h → h.record.targetId = id ∧ id ≠ "") ∧
    (p.hasTarget target = true ∨ p.targets.contains target = true → target ≠ "") ∧
    (p.snapshot.targets.contains target = true ↔
      p.hasTarget target = true ∨ p.targets.contains target = true) ∧
    ∀ entry, p.snapshot.targets.get? target = some entry →
      entry.configured = p.hasTarget target ∧
        entry.resources = p.registry.resourceCount target := by
  intro p
  have hp : p.ConsistentAt target (lastPush? target calls) :=
    consistentAt_after settings target calls
  have hsettings : p.settings = settings := settings_after (fresh settings) calls
  have hvalid : ∀ state, p.targets.get? target = some state →
      state.queue.tuning.validate = .ok () := by
    intro state hstate
    cases hconfigured : p.hasTarget target with
    | true =>
      obtain ⟨old, hold, hpushed⟩ := hp.configured hconfigured
      obtain rfl := Option.some.inj (hold.symm.trans hstate)
      exact validate_of_lastPush? hpushed
    | false => rw [hp.unconfigured hconfigured state hstate, hsettings, hdefault]
  refine ⟨hp.configured, fun state hstate => ⟨fun h => ?_, hvalid state hstate, ?_⟩, ?_, ?_,
    fun entry => hp.snapshot_eq⟩
  · rw [hp.unconfigured h state hstate, hsettings]
  · exact fun id held hheld => (hp.filed state hstate).targetId_eq hheld
  · rintro (h | h)
    · obtain ⟨state, hstate, -⟩ := hp.configured h
      exact hp.named state hstate
    · obtain ⟨state, hstate⟩ := Option.isSome_iff_exists.mp h
      exact hp.named state hstate
  · rw [contains_targets_snapshot, Bool.or_eq_true, Or.comm]

/-- A target with a virtual machine is configured, and a push that would make its window of
creations empty is refused. The machine gets an interface, which its traffic reveals and a
discovery adds. A target that nobody configured reports a disk. -/
def siteCalls : List Call :=
  [.applyConfig "site"
      { datasources :=
          [{ resourceId := "vm", component := "server-vm", componentKind := "Instance" }]
        queue := { shortlived := .ofSeconds 55 } },
    .applyConfig "site" { queue := { shortlived := .ofSeconds 0 } },
    .ingestSamples "site" (.ofSeconds 13100)
      [{ resourceId := "tap-vm-eth0", meter := "network.incoming.bytes", volume := .notANumber
         time := .ofSeconds 13090 }],
    .discover (.ofSeconds 13130),
    .appendRecord "lab" (.ofSeconds 13140) (some { targetId := "disk" }),
    .drain (.ofSeconds 13150)]

/-- The site keeps the window of its first push while the interface waits, and a snapshot shows the
lab as a target that nobody configured. -/
theorem site_consistent :
    let p := (fresh {}).after siteCalls
    (∃ state, p.targets.get? "site" = some state ∧
      state.queue.tuning = { shortlived := .ofSeconds 55 } ∧
      state.queue.held.contains "vnic-vm-eth0" = true) ∧
    ∃ entry, p.snapshot.targets.get? "lab" = some entry ∧ entry.configured = false := by
  intro p
  obtain ⟨hconfigured, -⟩ := reachable_consistent {} rfl siteCalls "site"
  obtain ⟨-, -, -, hlisted, hentry⟩ := reachable_consistent {} rfl siteCalls "lab"
  constructor
  · obtain ⟨state, hstate, hpushed⟩ := hconfigured (by decide)
    have hlast : lastPush? "site" siteCalls = some { shortlived := .ofSeconds 55 } := by decide
    have hwaits : (p.targets.get? "site").any
        (fun state => state.queue.held.contains "vnic-vm-eth0") = true := by decide
    refine ⟨state, hstate, Option.some.inj (hpushed.symm.trans hlast), ?_⟩
    rwa [hstate] at hwaits
  · obtain ⟨entry, hget⟩ := Option.isSome_iff_exists.mp (hlisted.mpr (.inr (by decide)))
    exact ⟨entry, hget, (hentry entry hget).1.trans (by decide)⟩

end Pipeline

end CloudCollector
