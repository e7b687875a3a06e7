import CloudCollector.Proofs.Pipeline.Gauges

/-!
# What the gauges tell after a run

Most calls keep the gauges up: the depths of what waits for delivery, the refused ids and the labels
always tell how things stand. Two calls do not: a discovery opens entries in a queue without setting
the gauge of its records, and a note begins a state without setting the number of states. The gauges
lag behind by just that until a call sets them again.
-/

namespace CloudCollector.Pipeline

/-! ## What the gauges miss -/

/-- Whether a call does something to the queue of the target that it names: it is an accepted push,
an accepted record, or an event that leads to one. -/
def Call.reachesQueue (p : Pipeline) (call : Call) : Bool :=
  call.target?.any fun target => !(call.onQueue p target).isEmpty

/-- A call reaches a queue if it does something to that of the target that it names. -/
theorem Call.reachesQueue_eq {p : Pipeline} {call : Call} {name : String}
    (h : call.target? = some name) : call.reachesQueue p = !(call.onQueue p name).isEmpty := by
  rw [reachesQueue, h, Option.any_some]

/-- Whether a call sets the number of states. -/
def Call.setsStates (p : Pipeline) : Call → Bool
  | .removeTarget _ => true
  | .drain _ => true
  | call => call.reachesQueue p

/-- Whether a call sets the gauge of the records that wait for a target. A push does not: it opens
no entry. -/
def Call.setsRecords (p : Pipeline) (target : String) : Call → Bool
  | .removeTarget name => name = target
  | .drain _ => true
  | .applyConfig _ _ => false
  | call => call.target? = some target && call.reachesQueue p

/-- The states that the gauge misses after a call: those that notes began since it was set. -/
def Call.missedStates (p : Pipeline) (missed : Nat) (call : Call) : Nat :=
  if call.setsStates p then 0
  else
    match call with
    | .note target _ _ => if target = "" ∨ p.targets.contains target then missed else missed + 1
    | _ => missed

/-- The waiting records of a target that its gauge misses after a call: those for which
discoveries opened an entry since it was set. -/
def Call.missedRecords (p : Pipeline) (target : String) (missed : Nat) (call : Call) : Nat :=
  if call.setsRecords p target then 0
  else
    match call with
    | .discover now => missed + ((p.discover now).1.held target - p.held target)
    | _ => missed

/-- The states that the gauge misses after a run. -/
def missedStates (p : Pipeline) (missed : Nat) : List Call → Nat
  | [] => missed
  | call :: rest => (p.perform call).missedStates (call.missedStates p missed) rest

/-- The waiting records of a target that its gauge misses after a run. -/
def missedRecords (p : Pipeline) (target : String) (missed : Nat) : List Call → Nat
  | [] => missed
  | call :: rest => (p.perform call).missedRecords target (call.missedRecords p target missed) rest

/-! ## Sweeps -/

section Drain

variable {target : String} {missed : Nat} {p : Pipeline}

/-- The stage of a target sets both of its gauges, if it has a state. -/
theorem GaugedAt.drainTarget (h : p.GaugedAt target missed) (configured : List String)
    (now : Instant) (progress : DrainProgress) (name : String) :
    (p.drainTarget configured now progress name).1.GaugedAt target
      (if target = name then 0 else missed) := by
  unfold Pipeline.drainTarget
  cases hstate : p.targets.get? name with
  | none =>
    by_cases htarget : target = name
    · rw [if_pos htarget, ← h.missed_eq_zero (htarget ▸ hstate)]
      exact h
    · rwa [if_neg htarget]
  | some state =>
    have hinsert {α : Type} (d : Dict α) (value : α) : (d.insert name value).get? target = _ :=
      Dict.get?_insert ..
    by_cases htarget : target = name
    · simp only [if_pos htarget] at hinsert ⊢
      refine gaugedAt_of_set (hinsert _ _) ?_ ?_ <;> exact congrArg (·.getD 0) (hinsert _ _)
    · simp only [if_neg htarget] at hinsert ⊢
      exact h.of_sameState rfl (hinsert _ _) (hinsert _ _) (hinsert _ _)

/-- A prune takes the labels of its target along. -/
theorem GaugedAt.prune (h : p.GaugedAt target missed) (name : String) :
    (p.prune name).GaugedAt target missed := by
  unfold Pipeline.prune
  cases hstate : p.targets.get? name with
  | none => exact h
  | some state =>
    dsimp only
    split
    · next hempty =>
      have herase {α : Type} (d : Dict α) : (d.erase name).get? target = _ := Dict.get?_erase ..
      by_cases htarget : target = name
      · simp only [if_pos htarget] at herase
        have hnone : missed = 0 := by
          have hheld := h.held
          have hsize : state.queue.size = 0 := by
            rw [Queue.size, Dict.size, List.length_eq_zero_iff]
            exact List.isEmpty_iff.mp hempty
          rw [held_eq_size, htarget, stateOf_of_get? hstate, hsize] at hheld
          omega
        rw [hnone]
        exact gaugedAt_of_absent (herase _) (herase _) (herase _)
      · simp only [if_neg htarget] at herase
        exact h.of_sameState rfl (herase _) (herase _) (herase _)
    · exact h

/-- Gauges at a target go with targets that are forgotten one after the other. -/
theorem GaugedAt.foldl_prune {names : List String} (h : p.GaugedAt target missed) :
    (names.foldl Pipeline.prune p).GaugedAt target missed := by
  induction names generalizing p with
  | nil => exact h
  | cons name names ih => exact ih (h.prune name)

/-- The stages of some targets set the gauges of each of them. -/
theorem GaugedAt.foldl_drainTarget (configured : List String) (now : Instant) (names : List String)
    (x : Pipeline × DrainProgress) (h : x.1.GaugedAt target missed) :
    (names.foldl (fun x name => x.1.drainTarget configured now x.2 name) x).1.GaugedAt target
      (if target ∈ names then 0 else missed) := by
  induction names generalizing x missed with
  | nil => simpa using h
  | cons first rest ih =>
    have hstages := ih _ (h.drainTarget configured now x.2 first)
    by_cases hfirst : target = first <;> by_cases hrest : target ∈ rest <;>
      simpa [hfirst, hrest] using hstages

/-- When every target was drained, nothing is missed. -/
theorem GaugedAt.drain (h : p.GaugedAt target missed) (now : Instant) :
    (p.drain now).1.GaugedAt target 0 := by
  have hmissed : (if target ∈ p.targets.keys then 0 else missed) = 0 := by
    split
    · rfl
    · next hmem =>
      refine h.missed_eq_zero (Option.eq_none_iff_forall_ne_some.mpr fun state hstate => ?_)
      exact hmem (Dict.mem_keys_iff.mpr ⟨state, hstate⟩)
  have hstages : (p.stages now).1.GaugedAt target 0 :=
    hmissed ▸ GaugedAt.foldl_drainTarget p.registry.targets.keys now p.targets.keys (p, {}) h
  rw [drain_eq]
  exact hstages.foldl_prune.of_sameState rfl rfl rfl rfl

/-- A drain leaves the depths of what waits for delivery alone. -/
theorem queueDepth_drain (p : Pipeline) (now : Instant) :
    (p.drain now).1.health.queueDepth = p.health.queueDepth := by
  have hstages (names : List String) (x : Pipeline × DrainProgress) :
      (names.foldl (fun x name => x.1.drainTarget p.registry.targets.keys now x.2 name)
        x).1.health.queueDepth = x.1.health.queueDepth := by
    induction names generalizing x with
    | nil => rfl
    | cons name names ih =>
      have hstage : (x.1.drainTarget p.registry.targets.keys now x.2 name).1.health.queueDepth =
          x.1.health.queueDepth := by
        unfold drainTarget
        split <;> rfl
      exact (ih _).trans hstage
  have hpruned (names : List String) (q : Pipeline) :
      (names.foldl prune q).health.queueDepth = q.health.queueDepth := by
    induction names generalizing q with
    | nil => rfl
    | cons name names ih =>
      have hprune : (q.prune name).health.queueDepth = q.health.queueDepth := by
        unfold prune
        split
        · split <;> rfl
        · rfl
      exact (ih _).trans hprune
  rw [drain_eq]
  exact (hpruned _ _).trans (hstages p.targets.keys (p, {}))

/-- A drain sets every gauge of the targets. -/
theorem Gauged.drain {states : Nat} {records : String → Nat} (h : p.Gauged states records)
    (now : Instant) : (p.drain now).1.Gauged 0 fun _ => 0 where
  metrics := by rw [queueDepth_drain, (sameDelivery_drain p now).metrics, h.metrics]
  events := by rw [queueDepth_drain, (sameDelivery_drain p now).events, h.events]
  states := rfl
  targets := fun target => (h.targets target).drain now

end Drain

section Discovery

variable {p : Pipeline}

/-- A record makes a queue longer if nothing waits for its entity. -/
theorem size_append (q : Queue) (now : Instant) (r : Record) :
    (q.append now r).size = q.size + (!q.held.contains r.targetId).toNat :=
  Dict.size_insert ..

/-- Records that are appended take no entry away, and no refused id. -/
theorem appendAll_frame (q : Queue) (now : Instant) (found : List (String × Record)) :
    q.size ≤ (found.foldl (fun queue found => queue.append now found.2) q).size ∧
      (found.foldl (fun queue found => queue.append now found.2) q).blacklist = q.blacklist := by
  induction found generalizing q with
  | nil => exact ⟨Nat.le_refl _, rfl⟩
  | cons first rest ih =>
    obtain ⟨hsize, hblacklist⟩ := ih (q.append now first.2)
    rw [size_append] at hsize
    exact ⟨Nat.le_trans (Nat.le_add_right ..) hsize, hblacklist⟩

/-- A discovery sets no gauge. -/
theorem Gauged.discover {states : Nat} {records : String → Nat} (h : p.Gauged states records)
    (now : Instant) :
    (p.discover now).1.Gauged states fun target =>
      records target + ((p.discover now).1.held target - p.held target) := by
  refine ⟨h.metrics, h.events, ?_, fun target => ?_⟩
  · refine Eq.trans ?_ h.states
    simp [Pipeline.discover, Dict.map, Dict.size]
  · have htarget := h.targets target
    have hstate := get?_targets_discover_eq p now target
    have hgrown : p.held target ≤ (p.discover now).1.held target := by
      rw [held, held, hstate]
      cases p.targets.get? target with
      | none => exact Nat.le_refl _
      | some state => exact (appendAll_frame state.queue now _).1
    have hrefused : (p.discover now).1.refusedIds target = p.refusedIds target := by
      rw [refusedIds, refusedIds, hstate]
      cases p.targets.get? target with
      | none => rfl
      | some state => exact congrArg Dict.size (appendAll_frame state.queue now _).2
    refine ⟨?_, hrefused ▸ htarget.blacklisted, fun hlabel => ?_⟩
    · have hheld := htarget.held
      change (p.discover now).1.held target = p.health.datamapHeld.getD target 0 + _
      omega
    · have hkept := htarget.labelled hlabel
      rw [Dict.contains_eq_isSome] at hkept ⊢
      rw [hstate, Option.isSome_map, hkept]

end Discovery

/-! ## Calls and runs -/

section Calls

variable {states : Nat} {records : String → Nat} {p : Pipeline}

/-- After a call the gauges miss what the call leaves missed. -/
theorem Gauged.perform (h : p.Gauged states records)
    (hconfigured : ∀ target, p.hasTarget target = true → p.targets.contains target = true)
    (call : Call) :
    (p.perform call).Gauged (call.missedStates p states)
      fun target => call.missedRecords p target (records target) := by
  simp only [Call.missedStates, Call.missedRecords]
  cases call with
  | applyConfig name config =>
    have hreaches : (Call.applyConfig name config).reachesQueue p =
        (checkConfig name config).isOk := by
      rw [Call.reachesQueue_eq rfl, Call.onQueue, if_pos rfl]
      cases checkConfig name config <;> rfl
    have hpush := h.applyConfig name config
    rw [← hreaches] at hpush
    exact hpush
  | removeTarget name =>
    have hremoval := h.removeTarget name
    change (p.removeTarget name).1.Gauged _ _
    simpa [Call.setsStates, Call.setsRecords, eq_comm] using hremoval
  | appendRecord name now record =>
    have hreaches : (Call.appendRecord name now record).reachesQueue p =
        !(recordOnQueue name now record).isEmpty := by
      rw [Call.reachesQueue_eq rfl, Call.onQueue, if_pos rfl]
    have happend := h.appendRecord name now record
    change (p.appendRecord name now record).1.Gauged _ _
    cases hempty : (recordOnQueue name now record).isEmpty <;>
      simpa [Call.setsStates, Call.setsRecords, Call.target?, hreaches, hempty, eq_comm]
        using happend
  | note name id now =>
    have hnote := h.note name id now
    change (p.note name id now).1.Gauged _ _
    simpa [Call.setsStates, Call.setsRecords, Call.reachesQueue, Call.target?, Call.onQueue]
      using hnote
  | ingestSamples name now samples =>
    have hsamples := h.ingestSamples name now samples (hconfigured name)
    change (p.ingestSamples name now samples).1.Gauged _ _
    simpa [Call.setsStates, Call.setsRecords, Call.reachesQueue, Call.target?, Call.onQueue]
      using hsamples
  | ingestEvent name now e =>
    have hreaches : (Call.ingestEvent name now e).reachesQueue p = _ := Call.reachesQueue_eq rfl
    have hevent := h.ingestEvent name now e
    change (p.ingestEvent name now e).1.Gauged _ _
    cases hempty : ((Call.ingestEvent name now e).onQueue p name).isEmpty <;>
      simpa [Call.setsStates, Call.setsRecords, Call.target?, hreaches, hempty, eq_comm]
        using hevent
  | drain now => exact h.drain now
  | discover now => exact h.discover now
  | appendMetric w => exact h.setMetrics _
  | appendEvent e => exact h.setEvents _
  | takeMetrics => exact h.setMetrics []
  | takeEvents => exact h.setEvents []

/-- After a run the gauges miss what the run leaves missed, if every configured target has a state
all along. -/
theorem Gauged.after (h : p.Gauged states records) (calls : List Call)
    (hconfigured : ∀ before, before <+: calls → ∀ target,
      (p.after before).hasTarget target = true →
        (p.after before).targets.contains target = true) :
    (p.after calls).Gauged (p.missedStates states calls)
      fun target => p.missedRecords target (records target) calls := by
  induction calls generalizing p states records with
  | nil => exact h
  | cons call rest ih =>
    refine ih (h.perform (hconfigured [] (List.nil_prefix ..)) call) fun before hbefore => ?_
    exact hconfigured (call :: before) (List.cons_prefix_cons.mpr ⟨rfl, hbefore⟩)

end Calls

/-- In every run from a fresh pipeline, a configured target has a state. -/
theorem contains_of_hasTarget_after {settings : Settings} {calls : List Call} {target : String}
    (h : ((fresh settings).after calls).hasTarget target = true) :
    ((fresh settings).after calls).targets.contains target = true := by
  obtain ⟨state, hstate, -⟩ := (consistentAt_after settings target calls).configured h
  rw [Dict.contains_eq_isSome, hstate, Option.isSome_some]

/-- The gauges of a fresh pipeline miss nothing. -/
theorem gauged_fresh (settings : Settings) : (fresh settings).Gauged 0 fun _ => 0 :=
  ⟨rfl, rfl, rfl, fun _ => gaugedAt_of_absent rfl rfl rfl⟩

/-- **What the gauges tell.** After every call of every run the depths tell how many metric writes
and events wait, the refused ids of each target are counted, and only targets with a state have
labels. The number of states lacks just the states that notes began since a call last set it, and
the gauge of the records of a target lacks just the entries that discoveries opened since a call
last set it. So all gauges tell how things stand exactly if there are no such states and entries. -/
theorem gauges_lack_missed (settings : Settings) (calls : List Call) :
    let p := (fresh settings).after calls
    let states := (fresh settings).missedStates 0 calls
    let records := fun target => (fresh settings).missedRecords target 0 calls
    p.Gauged states records ∧
      ((p.Gauged 0 fun _ => 0) ↔ states = 0 ∧ ∀ target, records target = 0) := by
  intro p states records
  have hgauged : p.Gauged states records := (gauged_fresh settings).after calls
    fun before _ target => contains_of_hasTarget_after
  refine ⟨hgauged, fun h => ⟨?_, fun target => ?_⟩, fun ⟨hstates, hrecords⟩ => ?_⟩
  · have hsize := hgauged.states
    rw [h.states] at hsize
    omega
  · have hheld := (hgauged.targets target).held
    rw [(h.targets target).held] at hheld
    omega
  · have hnone : records = fun _ => 0 := funext hrecords
    rwa [hstates, hnone] at hgauged

/-- The traffic of an interface that nobody models is seen at the site, a discovery recognizes the
interface, and a disk is noted in a lab that nobody configured. -/
def sightingCalls : List Call :=
  [.applyConfig "site"
      { datasources :=
          [{ resourceId := "vm", component := "server-vm", componentKind := "Instance" }] },
    .ingestSamples "site" (.ofSeconds 18020)
      [{ resourceId := "tap-vm-eth0", meter := "network.incoming.bytes", volume := .notANumber
         time := .ofSeconds 18020 }],
    .discover (.ofSeconds 18020),
    .note "lab" "disk" (.ofSeconds 18020)]

/-- The record of the interface waits, and its gauge does not tell. -/
theorem not_always_gauged :
    ¬∀ (settings : Settings) (calls : List Call), ((fresh settings).after calls).Gauged 0
      fun _ => 0 := by
  intro h
  have hheld := ((h {} sightingCalls).targets "site").held
  have hone : ((fresh {}).after sightingCalls).held "site" = 1 := by decide
  have hnone : ((fresh {}).after sightingCalls).health.datamapHeld.getD "site" 0 = 0 := by decide
  omega

/-- The gauges miss the record of the interface and the state of the lab, until the next drain. -/
example :
    (fresh {}).missedRecords "site" 0 sightingCalls = 1 ∧
      (fresh {}).missedStates 0 sightingCalls = 1 ∧
      (fresh {}).missedRecords "site" 0 (sightingCalls ++ [.drain (.ofSeconds 18020)]) = 0 ∧
      (fresh {}).missedStates 0 (sightingCalls ++ [.drain (.ofSeconds 18020)]) = 0 := by
  decide

end CloudCollector.Pipeline
