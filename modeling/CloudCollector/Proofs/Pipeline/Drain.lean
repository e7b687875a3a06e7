import CloudCollector.Proofs.Pipeline.Target
import Mathlib.Data.List.Basic

/-!
# Drains and discoveries seen from one target

A drain goes over every target with a state, and afterwards over those that it found idle. Each
target comes up once, and the others do not matter to it. So a drain does one thing to each state:
it drains the queue, and keeps the state if records still wait or somebody configured the target.
A discovery does one thing to each state as well, and forgets none.
-/

namespace CloudCollector

/-- The state of a target after a drain of its queue. -/
def TargetState.drained (state : TargetState) (now : Instant) : TargetState :=
  { state with queue := (state.queue.drain now).1 }

/-- What a drain of the queue of a target releases: a batch, or none if that is nothing. -/
def TargetState.batches (state : TargetState) (target : String) (now : Instant) : List Batch :=
  let release := (state.queue.drain now).2.1
  if release.isEmpty then [] else [⟨target, release.ordered⟩]

/-- The batches of a target are what the drain of its queue releases, or none. -/
theorem TargetState.batches_sublist (state : TargetState) (target : String) (now : Instant) :
    (state.batches target now).Sublist [⟨target, (state.queue.drain now).2.1.ordered⟩] := by
  unfold batches
  dsimp only
  split
  · exact List.nil_sublist _
  · exact .refl _

namespace Pipeline

/-- The batches of one target. -/
def batchesOf (target : String) (batches : List Batch) : List Batch :=
  batches.filter fun batch => batch.target = target

/-- The batches of a target are found in each of two lists. -/
theorem batchesOf_append (target : String) (first second : List Batch) :
    batchesOf target (first ++ second) = batchesOf target first ++ batchesOf target second :=
  List.filter_append ..

/-- The drain of a target yields batches for this target only. -/
theorem batchesOf_batches (state : TargetState) (target name : String) (now : Instant) :
    batchesOf target (state.batches name now) =
      if target = name then state.batches name now else [] := by
  unfold TargetState.batches batchesOf
  by_cases hempty : (state.queue.drain now).2.1.isEmpty
  · simp [hempty]
  · simp [hempty, eq_comm, List.filter_cons]

/-! ## The targets one after the other -/

/-- Two stages of a drain do not differ at a target: neither in the pipeline nor in what was
found. -/
structure SameStage (target : String) (x y : Pipeline × DrainProgress) : Prop where
  pipeline : SameAt target x.1 y.1
  batches : batchesOf target x.2.batches = batchesOf target y.2.batches
  idle : target ∈ x.2.idle ↔ target ∈ y.2.idle

/-- A stage of a drain agrees with itself at every target. -/
theorem SameStage.refl (target : String) (x : Pipeline × DrainProgress) : SameStage target x x :=
  ⟨.refl target x.1, rfl, Iff.rfl⟩

/-- Agreement of stages at a target passes on. -/
theorem SameStage.trans {target : String} {x y z : Pipeline × DrainProgress}
    (h : SameStage target x y) (h' : SameStage target y z) : SameStage target x z :=
  ⟨h.pipeline.trans h'.pipeline, h.batches.trans h'.batches, h.idle.trans h'.idle⟩

section Stages

variable {target name : String} (configured : List String) (now : Instant)

/-- Other targets do not matter. -/
theorem sameStage_drainTarget (h : target ≠ name) (p : Pipeline) (progress : DrainProgress) :
    SameStage target (p.drainTarget configured now progress name) (p, progress) := by
  unfold drainTarget
  split
  · exact .refl target _
  · next state _ =>
    refine ⟨⟨rfl, rfl, ?_⟩, ?_, ?_⟩
    · exact (Dict.get?_insert ..).trans (if_neg h)
    · have hbatches : batchesOf target (state.batches name now) = [] := by
        rw [batchesOf_batches, if_neg h]
      exact (batchesOf_append ..).trans (by rw [← TargetState.batches, hbatches, List.append_nil])
    · dsimp only
      split <;> simp [h]

/-- Any number of other targets do not matter. -/
theorem sameStage_foldl_drainTarget {names : List String} (h : target ∉ names)
    (x : Pipeline × DrainProgress) :
    SameStage target
      (names.foldl (fun x name => x.1.drainTarget configured now x.2 name) x) x := by
  induction names generalizing x with
  | nil => exact .refl target x
  | cons first rest ih =>
    obtain ⟨hfirst, hrest⟩ : target ≠ first ∧ target ∉ rest := by simpa using h
    exact (ih hrest _).trans (sameStage_drainTarget configured now hfirst x.1 x.2)

/-- The stage of a target depends on what stands at the target. -/
theorem SameStage.drainTarget {x y : Pipeline × DrainProgress} (h : SameStage target x y) :
    SameStage target (x.1.drainTarget configured now x.2 target)
      (y.1.drainTarget configured now y.2 target) := by
  unfold Pipeline.drainTarget
  rw [h.pipeline.state]
  cases y.1.targets.get? target with
  | none => exact h
  | some state =>
    refine ⟨⟨h.pipeline.settings, h.pipeline.known, ?_⟩, ?_, ?_⟩
    · exact (Dict.get?_insert ..).trans ((if_pos rfl).trans
        ((Dict.get?_insert ..).trans (if_pos rfl)).symm)
    · exact (batchesOf_append ..).trans
        ((congrArg (· ++ _) h.batches).trans (batchesOf_append ..).symm)
    · simp only [List.mem_append, h.idle]

end Stages

/-- The pipeline, and what was found, when a drain has gone over every target. -/
def stages (p : Pipeline) (now : Instant) : Pipeline × DrainProgress :=
  p.targets.keys.foldl
    (fun x name => x.1.drainTarget p.registry.targets.keys now x.2 name) (p, {})

/-- When a drain has gone over every target, each stands where its own stage brings it. -/
theorem sameStage_stages (p : Pipeline) (now : Instant) (target : String) :
    SameStage target (p.stages now) (p.drainTarget p.registry.targets.keys now {} target) := by
  unfold stages
  by_cases hmem : target ∈ p.targets.keys
  · have hnodup := p.targets.nodup_keys
    obtain ⟨before, after, hkeys⟩ := List.append_of_mem hmem
    rw [hkeys] at hnodup ⊢
    have hbefore : target ∉ before := fun h =>
      (List.nodup_append.mp hnodup).2.2 target h target List.mem_cons_self rfl
    have hafter : target ∉ after :=
      (List.nodup_cons.mp (List.nodup_append.mp hnodup).2.1).1
    rw [List.foldl_append, List.foldl_cons]
    exact (sameStage_foldl_drainTarget _ now hafter _).trans
      ((sameStage_foldl_drainTarget _ now hbefore (p, {})).drainTarget _ now)
  · have hnone : p.targets.get? target = none :=
      Option.eq_none_iff_forall_ne_some.mpr fun state hstate =>
        hmem (Dict.mem_keys_iff.mpr ⟨state, hstate⟩)
    rw [drainTarget, hnone]
    exact sameStage_foldl_drainTarget _ now hmem (p, {})

/-! ## Forgetting idle targets -/

/-- A prune forgets the state of its target if nothing waits there, and nothing else. -/
theorem get?_targets_prune (p : Pipeline) (name target : String) :
    (p.prune name).targets.get? target =
      (p.targets.get? target).filter fun state => !(target = name && state.queue.isEmpty) := by
  by_cases hname : target = name
  · subst hname
    unfold prune
    cases hstate : p.targets.get? target with
    | none => exact hstate
    | some state => cases hempty : state.queue.isEmpty <;> simp [hstate, hempty, Option.filter_some]
  · have hframe : (p.prune name).targets.get? target = p.targets.get? target := by
      unfold prune
      split
      · split
        · exact (Dict.get?_erase ..).trans (if_neg hname)
        · rfl
      · rfl
    rw [hframe]
    cases p.targets.get? target <;> simp [hname, Option.filter_some]

/-- Prunes forget the states of their targets where nothing waits. -/
theorem get?_targets_foldl_prune (names : List String) (p : Pipeline) (target : String) :
    (names.foldl prune p).targets.get? target =
      (p.targets.get? target).filter fun state => !(target ∈ names && state.queue.isEmpty) := by
  induction names generalizing p with
  | nil =>
    rw [List.foldl_nil]
    cases p.targets.get? target <;> simp [Option.filter_some]
  | cons first rest ih =>
    rw [List.foldl_cons, ih, get?_targets_prune, Option.filter_filter]
    congr 1
    funext state
    by_cases hfirst : target = first
    · cases state.queue.isEmpty <;> simp [hfirst]
    · simp [hfirst]

/-- To forget a target changes neither the settings nor what is known. -/
theorem prune_frame (p : Pipeline) (name : String) :
    (p.prune name).settings = p.settings ∧ (p.prune name).registry = p.registry := by
  unfold prune
  split
  · split <;> exact ⟨rfl, rfl⟩
  · exact ⟨rfl, rfl⟩

/-- Prunes change neither the settings nor what is known. -/
theorem foldl_prune_frame (names : List String) (p : Pipeline) :
    (names.foldl prune p).settings = p.settings ∧
      (names.foldl prune p).registry = p.registry := by
  induction names generalizing p with
  | nil => exact ⟨rfl, rfl⟩
  | cons first rest ih =>
    obtain ⟨hsettings, hregistry⟩ := ih (p.prune first)
    exact ⟨hsettings.trans (p.prune_frame first).1, hregistry.trans (p.prune_frame first).2⟩

/-! ## Whole drains and discoveries -/

section Whole

variable (p : Pipeline) (now : Instant) (target : String)

/-- A drain goes through its stages, forgets what is idle and counts the targets. -/
theorem drain_eq :
    p.drain now = (((p.stages now).2.idle.foldl prune (p.stages now).1).countTargets,
      (p.stages now).2.batches) := rfl

/-- The drain of one target changes neither the settings nor what is known. -/
theorem drainTarget_frame (configured : List String) (progress : DrainProgress) :
    (p.drainTarget configured now progress target).1.settings = p.settings ∧
      (p.drainTarget configured now progress target).1.registry = p.registry := by
  unfold drainTarget
  split <;> exact ⟨rfl, rfl⟩

/-- A drain changes neither the settings nor what is known about a target. -/
theorem drain_frame :
    (p.drain now).1.settings = p.settings ∧
      (p.drain now).1.registry.targets.get? target = p.registry.targets.get? target := by
  have hstage := (p.sameStage_stages now target).pipeline
  obtain ⟨hsettings, hregistry⟩ := p.drainTarget_frame now target p.registry.targets.keys {}
  obtain ⟨hpruned, hpruned'⟩ := foldl_prune_frame (p.stages now).2.idle (p.stages now).1
  rw [drain_eq]
  constructor
  · exact hpruned.trans (hstage.settings.trans hsettings)
  · exact (congrArg (fun r : Registry => r.targets.get? target) hpruned').trans
      (hstage.known.trans (congrArg (fun r : Registry => r.targets.get? target) hregistry))

/-- A drain drains the queue of a target, and keeps its state if records still wait or somebody
configured it. -/
theorem get?_targets_drain :
    (p.drain now).1.targets.get? target =
      ((p.targets.get? target).map (·.drained now)).filter fun state =>
        !state.queue.isEmpty || p.hasTarget target := by
  have hstage := p.sameStage_stages now target
  have hconfigured : p.hasTarget target = decide (target ∈ p.registry.targets.keys) := by
    rw [hasTarget, Registry.hasTarget, Bool.eq_iff_iff, Dict.contains_iff, decide_eq_true_iff]
  rw [drain_eq]
  refine (get?_targets_foldl_prune _ _ target).trans ?_
  rw [hstage.pipeline.state, hconfigured]
  simp only [hstage.idle]
  cases hstate : p.targets.get? target with
  | none =>
    rw [drainTarget, hstate, hstate]
    rfl
  | some state =>
    have hget : (p.drainTarget p.registry.targets.keys now {} target).1.targets.get? target =
        some (state.drained now) := by
      rw [drainTarget, hstate]
      exact (Dict.get?_insert ..).trans (if_pos rfl)
    have hidle : target ∈ (p.drainTarget p.registry.targets.keys now {} target).2.idle ↔
        (state.drained now).queue.isEmpty = true ∧ target ∉ p.registry.targets.keys := by
      rw [drainTarget, hstate]
      simp [TargetState.drained]
    rw [hget, Option.map_some]
    by_cases hmem : target ∈ p.registry.targets.keys
    · simp [hidle, hmem, Option.filter_some]
    · cases hempty : (state.drained now).queue.isEmpty <;>
        simp [hidle, hmem, hempty, Option.filter_some]

/-- The batches of a target are what the drain of its queue releases. -/
theorem batchesOf_drain :
    batchesOf target (p.drain now).2 =
      (p.targets.get? target).elim [] (·.batches target now) := by
  rw [drain_eq, (p.sameStage_stages now target).batches]
  unfold drainTarget
  cases p.targets.get? target with
  | none => rfl
  | some state => exact (batchesOf_batches state target target now).trans (if_pos rfl)

/-- Going over targets finds the batches of each, in their order. -/
theorem batches_foldl_drainTarget (configured : List String) {names : List String}
    (h : names.Nodup) (x : Pipeline × DrainProgress) :
    (names.foldl (fun x name => x.1.drainTarget configured now x.2 name) x).2.batches =
      x.2.batches ++ names.flatMap fun name =>
        (x.1.targets.get? name).elim [] (·.batches name now) := by
  induction names generalizing x with
  | nil => exact (List.append_nil _).symm
  | cons first rest ih =>
    obtain ⟨hfirst, hrest⟩ := List.nodup_cons.mp h
    have hbatches : (x.1.drainTarget configured now x.2 first).2.batches =
        x.2.batches ++ (x.1.targets.get? first).elim [] (·.batches first now) := by
      unfold drainTarget
      cases x.1.targets.get? first with
      | none => exact (List.append_nil _).symm
      | some state => rfl
    have hothers : (rest.flatMap fun name =>
        ((x.1.drainTarget configured now x.2 first).1.targets.get? name).elim []
          (·.batches name now)) =
        rest.flatMap fun name => (x.1.targets.get? name).elim [] (·.batches name now) := by
      refine List.flatMap_congr fun name hname => ?_
      have hne : name ≠ first := fun heq => hfirst (heq ▸ hname)
      rw [(sameStage_drainTarget configured now hne x.1 x.2).pipeline.state]
    rw [List.foldl_cons, ih hrest, hbatches, hothers, List.append_assoc, List.flatMap_cons]

/-- A drain releases the batches of every state, by increasing target. -/
theorem batches_drain :
    (p.drain now).2 = p.targets.entries.flatMap fun entry => entry.2.batches entry.1 now := by
  rw [drain_eq]
  refine (batches_foldl_drainTarget now _ p.targets.nodup_keys (p, {})).trans ?_
  rw [List.nil_append, Dict.keys, List.flatMap_map]
  refine List.flatMap_congr fun entry hentry => ?_
  rw [Dict.mem_entries_iff.mp hentry, Option.elim_some]

/-- A discovery changes the state of a target by what it finds there. -/
theorem get?_targets_discover :
    (p.discover now).1.targets.get? target =
      (p.targets.get? target).map fun state => (p.discoverIn now target state).1 := by
  refine (Dict.get?_map (p.targets.map (p.discoverIn now)) (fun _ found => found.1) target).trans ?_
  rw [Dict.get?_map, Option.map_map]
  rfl

end Whole

section Sweeps

variable {target : String} {p q : Pipeline}

/-- Pipelines that are the same at a target stay so in a drain. -/
theorem SameAt.drain (h : SameAt target p q) (now : Instant) :
    SameAt target (p.drain now).1 (q.drain now).1 := by
  refine ⟨?_, ?_, ?_⟩
  · rw [(p.drain_frame now target).1, (q.drain_frame now target).1, h.settings]
  · rw [(p.drain_frame now target).2, (q.drain_frame now target).2, h.known]
  · rw [get?_targets_drain, get?_targets_drain, h.state, h.hasTarget_eq]

/-- Pipelines that are the same at a target release the same for it. -/
theorem SameAt.batchesOf_drain_eq (h : SameAt target p q) (now : Instant) :
    batchesOf target (p.drain now).2 = batchesOf target (q.drain now).2 := by
  rw [batchesOf_drain, batchesOf_drain, h.state]

/-- Pipelines that are the same at a target stay so in a discovery. -/
theorem SameAt.discover (h : SameAt target p q) (now : Instant) :
    SameAt target (p.discover now).1 (q.discover now).1 := by
  refine ⟨h.settings, h.known, ?_⟩
  rw [get?_targets_discover, get?_targets_discover, h.state, h.discoverIn_eq]

end Sweeps

end Pipeline

end CloudCollector
