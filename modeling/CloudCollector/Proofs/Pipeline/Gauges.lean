import CloudCollector.Proofs.Pipeline.Arrivals
import CloudCollector.Proofs.Pipeline.Waiting

/-!
# Gauges beside the stores

The gauges stand beside the stores, and each operation sets by hand those that it knows to have
changed. This file says what it means that they tell how things stand, up to states and records
that they miss, and what the operations on one target make of that. A note is the only one of them
that leaves a gauge behind: it may begin a state without setting the number of states.
-/

namespace CloudCollector.Pipeline

/-- The number of refused ids of a target. -/
def refusedIds (p : Pipeline) (target : String) : Nat :=
  ((p.targets.get? target).map fun state => state.queue.blacklist.size).getD 0

/-- The gauges of a target tell how its queue stands, but that they miss some waiting records. A
target without a state has no label. -/
structure GaugedAt (target : String) (missed : Nat) (p : Pipeline) : Prop where
  held : p.held target = p.health.datamapHeld.getD target 0 + missed
  blacklisted : p.health.blacklisted.getD target 0 = p.refusedIds target
  labelled : p.health.datamapHeld.contains target = true ∨
    p.health.blacklisted.contains target = true → p.targets.contains target = true

/-- The gauges tell how things stand, but that they miss some states, and some waiting records of
each target. -/
structure Gauged (states : Nat) (records : String → Nat) (p : Pipeline) : Prop where
  metrics : p.health.queueDepth.getD "metric" 0 = p.metrics.length
  events : p.health.queueDepth.getD "event" 0 = p.events.length
  states : p.targets.size = p.health.targetSystems + states
  targets : ∀ target, p.GaugedAt target (records target)

/-! ## One target -/

/-- What a target holds is the size of its queue. -/
theorem held_eq_size (p : Pipeline) (target : String) :
    p.held target = (p.stateOf target).queue.size := by
  rw [held, stateOf, Dict.getD]
  cases p.targets.get? target <;> rfl

/-- The refused ids of a target are those of its queue. -/
theorem refusedIds_eq_size (p : Pipeline) (target : String) :
    p.refusedIds target = (p.stateOf target).queue.blacklist.size := by
  rw [refusedIds, stateOf, Dict.getD]
  cases p.targets.get? target <;> rfl

namespace GaugedAt

variable {target name : String} {missed : Nat} {p q : Pipeline}

/-- Where neither the records nor the refused ids nor their gauges change, the gauges miss what they
missed. -/
theorem of_sameQueue (h : p.GaugedAt target missed)
    (hheld : (q.stateOf target).queue.held = (p.stateOf target).queue.held)
    (hblacklist : (q.stateOf target).queue.blacklist = (p.stateOf target).queue.blacklist)
    (hkept : p.targets.contains target = true → q.targets.contains target = true)
    (hdatamapHeld : q.health.datamapHeld.get? target = p.health.datamapHeld.get? target)
    (hblacklisted : q.health.blacklisted.get? target = p.health.blacklisted.get? target) :
    q.GaugedAt target missed where
  held := by
    have hsize : q.held target = p.held target := by
      rw [held_eq_size, held_eq_size, Queue.size, Queue.size, hheld]
    rw [hsize, h.held, Dict.getD, Dict.getD, hdatamapHeld]
  blacklisted := by
    have hsize : q.refusedIds target = p.refusedIds target := by
      rw [refusedIds_eq_size, refusedIds_eq_size, hblacklist]
    rw [hsize, ← h.blacklisted, Dict.getD, Dict.getD, hblacklisted]
  labelled := by
    rw [Dict.contains_eq_isSome, Dict.contains_eq_isSome, hdatamapHeld, hblacklisted]
    exact fun hlabel => hkept (h.labelled hlabel)

/-- A state and gauges that do not change at a target stay in step there. -/
theorem of_sameState (h : p.GaugedAt target missed)
    (hsettings : q.settings = p.settings)
    (hstate : q.targets.get? target = p.targets.get? target)
    (hdatamapHeld : q.health.datamapHeld.get? target = p.health.datamapHeld.get? target)
    (hblacklisted : q.health.blacklisted.get? target = p.health.blacklisted.get? target) :
    q.GaugedAt target missed := by
  have hsame : q.stateOf target = p.stateOf target := by
    rw [stateOf, stateOf, Dict.getD, Dict.getD, hstate, hsettings]
  refine h.of_sameQueue (by rw [hsame]) (by rw [hsame]) ?_ hdatamapHeld hblacklisted
  rw [Dict.contains_eq_isSome, Dict.contains_eq_isSome, hstate]
  exact id

/-- A target without a state has no labels, and nothing is missed there. -/
theorem missed_eq_zero (h : p.GaugedAt target missed) (hstate : p.targets.get? target = none) :
    missed = 0 := by
  have hheld := h.held
  rw [Pipeline.held, hstate, Option.map_none, Option.getD_none] at hheld
  omega

end GaugedAt

/-- Where a target has no state and no labels, nothing is missed. -/
theorem gaugedAt_of_absent {p : Pipeline} {target : String}
    (hstate : p.targets.get? target = none)
    (hdatamapHeld : p.health.datamapHeld.get? target = none)
    (hblacklisted : p.health.blacklisted.get? target = none) : p.GaugedAt target 0 where
  held := by rw [held, Dict.getD, hstate, hdatamapHeld]; rfl
  blacklisted := by rw [refusedIds, Dict.getD, hstate, hblacklisted]; rfl
  labelled := by
    rw [Dict.contains_eq_isSome, Dict.contains_eq_isSome, hdatamapHeld, hblacklisted]
    simp

/-- Where both gauges of a target were just set, nothing is missed. -/
theorem gaugedAt_of_set {p : Pipeline} {target : String} {state : TargetState}
    (hstate : p.targets.get? target = some state)
    (hdatamapHeld : p.health.datamapHeld.getD target 0 = state.queue.size)
    (hblacklisted : p.health.blacklisted.getD target 0 = state.queue.blacklist.size) :
    p.GaugedAt target 0 where
  held := by rw [held, hstate, hdatamapHeld]; rfl
  blacklisted := by rw [refusedIds, hstate, hblacklisted]; rfl
  labelled := fun _ => by rw [Dict.contains_eq_isSome, hstate, Option.isSome_some]

/-! ## Operations -/

/-- Two pipelines do not differ in the gauges and in what they tell. -/
structure SameGauges (p q : Pipeline) : Prop where
  settings : p.settings = q.settings
  targets : p.targets = q.targets
  metrics : p.metrics = q.metrics
  events : p.events = q.events
  queueDepth : p.health.queueDepth = q.health.queueDepth
  targetSystems : p.health.targetSystems = q.health.targetSystems
  datamapHeld : p.health.datamapHeld = q.health.datamapHeld
  blacklisted : p.health.blacklisted = q.health.blacklisted

/-- A depth that is set leaves the other one alone. -/
theorem depths_setMetricDepth (h : Health) (n : Nat) :
    (h.setMetricDepth n).queueDepth.getD "metric" 0 = n ∧
      (h.setMetricDepth n).queueDepth.getD "event" 0 = h.queueDepth.getD "event" 0 := by
  simp [Health.setMetricDepth, Dict.getD]

/-- To set the number of waiting events leaves that of metric writes alone. -/
theorem depths_setEventDepth (h : Health) (n : Nat) :
    (h.setEventDepth n).queueDepth.getD "event" 0 = n ∧
      (h.setEventDepth n).queueDepth.getD "metric" 0 = h.queueDepth.getD "metric" 0 := by
  simp [Health.setEventDepth, Dict.getD]

namespace Gauged

variable {states : Nat} {records : String → Nat} {p q : Pipeline}

/-- Gauges that show a pipeline show every other one with the same numbers. -/
theorem congr (h : p.Gauged states records) (hsame : SameGauges q p) :
    q.Gauged states records where
  metrics := by rw [hsame.queueDepth, hsame.metrics, h.metrics]
  events := by rw [hsame.queueDepth, hsame.events, h.events]
  states := by rw [hsame.targets, hsame.targetSystems, h.states]
  targets := fun target => (h.targets target).of_sameState hsame.settings (by rw [hsame.targets])
    (by rw [hsame.datamapHeld]) (by rw [hsame.blacklisted])

/-- Metric writes that wait, with their depth, are of no concern to other gauges. -/
theorem setMetrics (h : p.Gauged states records) (metrics : List MetricWrite) :
    { p with metrics, health := p.health.setMetricDepth metrics.length }.Gauged
      states records where
  metrics := (depths_setMetricDepth p.health metrics.length).1
  events := (depths_setMetricDepth p.health metrics.length).2.trans h.events
  states := h.states
  targets := fun target => (h.targets target).of_sameState rfl rfl rfl rfl

/-- Events that wait, with their depth, are of no concern to other gauges. -/
theorem setEvents (h : p.Gauged states records) (events : List Event) :
    { p with events, health := p.health.setEventDepth events.length }.Gauged
      states records where
  metrics := (depths_setEventDepth p.health events.length).2.trans h.metrics
  events := (depths_setEventDepth p.health events.length).1
  states := h.states
  targets := fun target => (h.targets target).of_sameState rfl rfl rfl rfl

/-- Gauges go with metric writes that are appended. -/
theorem foldl_appendMetric (h : p.Gauged states records) (writes : List MetricWrite) :
    (writes.foldl appendMetric p).Gauged states records := by
  induction writes generalizing p with
  | nil => exact h
  | cons w writes ih => exact ih (h.setMetrics (p.metrics ++ [w]))

/-- A push sets the number of states. -/
theorem applyConfig (h : p.Gauged states records) (name : String) (config : TargetConfig) :
    (p.applyConfig name config).1.Gauged
      (if (checkConfig name config).isOk then 0 else states) records := by
  have hqueue := @queue_applyConfig p name config
  unfold Pipeline.applyConfig at hqueue ⊢
  cases hcheck : checkConfig name config with
  | error cause => exact h
  | ok _ =>
    rw [Call.onQueue, if_pos rfl, hcheck] at hqueue
    have hstate (target : String) := get?_targets_retune (p.register name config) target name
      config.queue
    refine ⟨h.metrics, h.events, rfl, fun target => ?_⟩
    by_cases htarget : target = name
    · subst htarget
      have hheld := congrArg Queue.held hqueue
      have hblacklist := congrArg Queue.blacklist hqueue
      refine (h.targets target).of_sameQueue hheld hblacklist (fun _ => ?_) rfl rfl
      exact congrArg Option.isSome ((hstate target).trans (if_pos rfl))
    · exact (h.targets target).of_sameState rfl ((hstate target).trans (if_neg htarget)) rfl rfl

/-- A removal sets the number of states, and takes the labels of its target along. -/
theorem removeTarget (h : p.Gauged states records) (name : String) :
    (p.removeTarget name).1.Gauged 0 fun target => if target = name then 0 else records target := by
  refine ⟨h.metrics, h.events, rfl, fun target => ?_⟩
  have hstate := get?_targets_removeTarget p target name
  have hdatamapHeld : (p.removeTarget name).1.health.datamapHeld.get? target = _ :=
    Dict.get?_erase ..
  have hblacklisted : (p.removeTarget name).1.health.blacklisted.get? target = _ :=
    Dict.get?_erase ..
  by_cases htarget : target = name
  · rw [if_pos htarget] at hstate hdatamapHeld hblacklisted ⊢
    exact gaugedAt_of_absent hstate hdatamapHeld hblacklisted
  · rw [if_neg htarget] at hstate hdatamapHeld hblacklisted ⊢
    exact (h.targets target).of_sameState rfl hstate hdatamapHeld hblacklisted

/-- A record that is added sets the number of states and the gauge of its target. -/
theorem enqueue (h : p.Gauged states records) (name : String) (now : Instant) (r : Record) :
    (p.enqueue name now r).Gauged 0 fun target => if target = name then 0 else records target := by
  refine ⟨h.metrics, h.events, rfl, fun target => ?_⟩
  have hstate := get?_targets_enqueue p target name now r
  have hdatamapHeld : (p.enqueue name now r).health.datamapHeld.get? target = _ :=
    Dict.get?_insert ..
  by_cases htarget : target = name
  · rw [if_pos htarget] at hstate hdatamapHeld ⊢
    subst htarget
    refine gaugedAt_of_set hstate (by rw [Dict.getD, hdatamapHeld]; rfl) ?_
    exact (h.targets target).blacklisted.trans (refusedIds_eq_size p target)
  · rw [if_neg htarget] at hstate hdatamapHeld ⊢
    exact (h.targets target).of_sameState rfl hstate hdatamapHeld rfl

/-- An accepted record sets the number of states and the gauge of its target. -/
theorem appendRecord (h : p.Gauged states records) (name : String) (now : Instant)
    (record : Option Record) :
    (p.appendRecord name now record).1.Gauged
      (if (recordOnQueue name now record).isEmpty then states else 0)
      fun target =>
        if target = name ∧ (recordOnQueue name now record).isEmpty = false then 0
        else records target := by
  cases record with
  | none => simpa [recordOnQueue, Pipeline.appendRecord] using h
  | some r =>
    cases hcheck : checkRecord name r with
    | error cause =>
      have hcounted : { p with health.deltasRejected := p.health.deltasRejected + 1 }.Gauged
          states records := h.congr ⟨rfl, rfl, rfl, rfl, rfl, rfl, rfl, rfl⟩
      simpa [recordOnQueue, Pipeline.appendRecord, hcheck] using hcounted
    | ok _ => simpa [recordOnQueue, Pipeline.appendRecord, hcheck] using h.enqueue name now r

/-- A note may begin a state without setting their number. -/
theorem note (h : p.Gauged states records) (name id : String) (now : Instant) :
    (p.note name id now).1.Gauged
      (if name = "" ∨ p.targets.contains name then states else states + 1) records := by
  have hqueue := @queue_note p name id now
  have hstate (target : String) := get?_targets_note p target name id now
  unfold Pipeline.note at hqueue hstate ⊢
  by_cases hname : name = ""
  · simpa [hname] using h
  · simp only [hname, if_false, false_or] at hqueue hstate ⊢
    refine ⟨h.metrics, h.events, ?_, fun target => ?_⟩
    · refine (Dict.size_insert ..).trans ?_
      rw [h.states]
      cases p.targets.contains name <;> simp [Nat.add_assoc]
    · by_cases htarget : target = name
      · subst htarget
        refine (h.targets target).of_sameQueue (congrArg Queue.held hqueue)
          (congrArg Queue.blacklist hqueue) (fun _ => ?_) rfl rfl
        exact congrArg Option.isSome ((hstate target).trans (if_pos ⟨rfl, hname⟩))
      · refine (h.targets target).of_sameState rfl ?_ rfl rfl
        exact (hstate target).trans (if_neg fun hboth => htarget hboth.1)

/-- Notes in a target with a state begin none. -/
theorem noteAll (h : p.Gauged states records) (name : String) (now : Instant) (ids : List String)
    (hstate : p.targets.contains name = true) :
    (noteAll name now ids p).1.Gauged states records := by
  induction ids generalizing p with
  | nil => exact h
  | cons id ids ih =>
    have hnote := h.note name id now
    rw [if_pos (.inr hstate)] at hnote
    have hkept : (p.note name id now).1.targets.contains name = true := by
      rw [Dict.contains_eq_isSome, get?_targets_note]
      split
      · rfl
      · exact hstate
    unfold Pipeline.noteAll
    split
    · next q heq =>
      rw [heq] at hnote hkept
      exact ih hnote hkept
    · next heq =>
      rw [heq] at hnote
      exact hnote

/-- Samples keep every gauge in step: a configured target has a state. -/
theorem ingestSamples (h : p.Gauged states records) (name : String) (now : Instant)
    (samples : List Sample)
    (hconfigured : p.hasTarget name = true → p.targets.contains name = true) :
    (p.ingestSamples name now samples).1.Gauged states records := by
  unfold Pipeline.ingestSamples
  split
  · exact h
  · next hname =>
    generalize samples.flatMap (p.writesOf name now) = writes
    have hstate : (writes.foldl appendMetric p).targets.contains name = true := by
      rw [Dict.contains_eq_isSome, (sameAt_foldl_appendMetric name writes p).state]
      exact hconfigured (by simpa using hname)
    dsimp only
    generalize ((samples.filter _).filter _).map _ = ids
    have hnotes := (h.foldl_appendMetric writes).noteAll name now ids hstate
    split
    · next heq =>
      rw [heq] at hnotes
      exact hnotes
    · next heq =>
      rw [heq] at hnotes
      exact hnotes.congr ⟨rfl, rfl, rfl, rfl, rfl, rfl, rfl, rfl⟩

/-- A record that an event leads to sets what any record sets. -/
theorem appendMapped (h : p.Gauged states records) (name : String) (now : Instant)
    (record : Option Record) :
    (p.appendMapped name now record).1.Gauged
      (if (recordOnQueue name now record).isEmpty then states else 0)
      fun target =>
        if target = name ∧ (recordOnQueue name now record).isEmpty = false then 0
        else records target := by
  cases record with
  | none => simpa [recordOnQueue, Pipeline.appendMapped] using h
  | some r =>
    have hcounted : { p with health.eventsMapped := p.health.eventsMapped + 1 }.Gauged
        states records := h.congr ⟨rfl, rfl, rfl, rfl, rfl, rfl, rfl, rfl⟩
    have happend := hcounted.appendRecord name now (some r)
    have hmapped : (p.appendMapped name now (some r)).1 =
        ({ p with health.eventsMapped := p.health.eventsMapped + 1 }.appendRecord name now
          (some r)).1 := by
      simp only [Pipeline.appendMapped]
      split <;> next heq => rw [heq]
    rwa [hmapped]

/-- An event sets what the record sets that it leads to. -/
theorem ingestEvent (h : p.Gauged states records) (name : String) (now : Instant) (e : Event) :
    (p.ingestEvent name now e).1.Gauged
      (if ((Call.ingestEvent name now e).onQueue p name).isEmpty then states else 0)
      fun target =>
        if target = name ∧ ((Call.ingestEvent name now e).onQueue p name).isEmpty = false then 0
        else records target := by
  have hcounted : { p with health.eventsReceived := p.health.eventsReceived + 1 }.Gauged
      states records := h.congr ⟨rfl, rfl, rfl, rfl, rfl, rfl, rfl, rfl⟩
  rw [Call.onQueue]
  unfold Pipeline.ingestEvent
  cases hconfigured : p.hasTarget name with
  | false => simpa using h
  | true =>
    simp only [Bool.not_true, Bool.false_eq_true, if_false, and_self, if_true]
    exact (hcounted.appendMapped name now (p.interpret name e).2).setEvents _

end Gauged

end CloudCollector.Pipeline
