import CloudCollector.Proofs.Pipeline.Consistency
import CloudCollector.Proofs.Pipeline.Sections

/-!
# Pushes while a drain runs

A drain goes by what was configured when it began. It spares every target that it found configured,
so a push to such a target keeps its effect, wherever its two sections come between those of the
drain. A target that is configured later on may be forgotten with what was pushed: the drain lists
it, finds that nothing waits there and does not know that it is configured by now.
-/

namespace CloudCollector.Pipeline

/-! ## The tuning of a target -/

/-- A target has a state, and its queue has a tuning. -/
def Tuned (target : String) (tuning : Tuning) (p : Pipeline) : Prop :=
  ∃ state, p.targets.get? target = some state ∧ state.queue.tuning = tuning

/-- If a target has a state at all, its queue has the tuning of targets that nobody configured. -/
def Untuned (target : String) (p : Pipeline) : Prop :=
  ∀ state, p.targets.get? target = some state → state.queue.tuning = p.settings.defaultTuning

/-- Whether the next step of a drain forgets a target. -/
def DrainStage.Forgets (stage : DrainStage) (target : String) (p : Pipeline) : Prop :=
  (∃ left batches, stage = .pruning (target :: left) batches) ∧
    ∃ state, p.targets.get? target = some state ∧ state.queue.isEmpty = true

/-- From one pipeline to the next a target keeps its state and the tuning of its queue, and if it
only begins to have a state, nobody has tuned it. -/
structure KeepsTuning (target : String) (p q : Pipeline) : Prop where
  settings : q.settings = p.settings
  kept : ∀ state, p.targets.get? target = some state → q.Tuned target state.queue.tuning
  begun : p.targets.get? target = none → q.Untuned target

section Tuning

variable {target name : String} {tuning : Tuning} {p q : Pipeline}

/-- A tuning that is kept stays. -/
theorem KeepsTuning.tuned (h : KeepsTuning target p q) (hp : p.Tuned target tuning) :
    q.Tuned target tuning := by
  obtain ⟨state, hstate, rfl⟩ := hp
  exact h.kept state hstate

/-- A target whose tuning is kept stays untuned. -/
theorem KeepsTuning.untuned (h : KeepsTuning target p q) (hp : p.Untuned target) :
    q.Untuned target := by
  cases hstate : p.targets.get? target with
  | none => exact h.begun hstate
  | some state =>
    obtain ⟨later, hlater, htuning⟩ := h.kept state hstate
    intro other hother
    obtain rfl := Option.some.inj (hlater.symm.trans hother)
    rw [htuning, hp state hstate, h.settings]

/-- Where the state of a target stays as it is, so does its tuning. -/
theorem keepsTuning_of_get?_eq (hsettings : q.settings = p.settings)
    (h : q.targets.get? target = p.targets.get? target) : KeepsTuning target p q where
  settings := hsettings
  kept state hstate := ⟨state, h.trans hstate, rfl⟩
  begun hnone state hstate := by
    rw [h, hnone] at hstate
    cases hstate

/-- A state that is made of the one before, or of a fresh one, keeps its tuning. -/
theorem keepsTuning_of_stateOf (later : TargetState) (hsettings : q.settings = p.settings)
    (h : q.targets.get? target = some later)
    (htuning : later.queue.tuning = (p.stateOf target).queue.tuning) :
    KeepsTuning target p q where
  settings := hsettings
  kept state hstate := ⟨later, h, by rw [htuning, stateOf_of_get? hstate]⟩
  begun hnone state hstate := by
    obtain rfl := Option.some.inj (h.symm.trans hstate)
    rw [htuning, stateOf, Dict.getD, hnone, hsettings]
    rfl

/-- After the second step of a push its target has the tuning of the push. -/
theorem tuned_retune (p : Pipeline) (target : String) (tuning : Tuning) :
    (p.retune target tuning).countTargets.Tuned target tuning := by
  refine ⟨_, (get?_targets_retune p target target tuning).trans (if_pos rfl), ?_⟩
  cases p.targets.get? target <;> rfl

/-- A push to another target keeps the tuning. -/
theorem keepsTuning_retune (hname : target ≠ name) (p : Pipeline) (other : Tuning) :
    KeepsTuning target p (p.retune name other).countTargets :=
  keepsTuning_of_get?_eq rfl ((get?_targets_retune p target name other).trans (if_neg hname))

/-- An append keeps the tuning, also of its own target. -/
theorem keepsTuning_appendRecord (p : Pipeline) (target name : String) (now : Instant)
    (record : Option Record) : KeepsTuning target p (p.appendRecord name now record).1 := by
  cases record with
  | none => exact keepsTuning_of_get?_eq rfl rfl
  | some r =>
    simp only [appendRecord]
    cases checkRecord name r with
    | error cause => exact keepsTuning_of_get?_eq rfl rfl
    | ok _ =>
      have hget := get?_targets_enqueue p target name now r
      by_cases hname : target = name
      · subst hname
        exact keepsTuning_of_stateOf _ rfl (hget.trans (if_pos rfl)) rfl
      · exact keepsTuning_of_get?_eq rfl (hget.trans (if_neg hname))

/-- The drain of a target keeps its tuning and that of every other target. -/
theorem keepsTuning_drainTarget (p : Pipeline) (target : String) (configured : List String)
    (now : Instant) (progress : DrainProgress) (name : String) :
    KeepsTuning target p (p.drainTarget configured now progress name).1 := by
  have hsettings := (p.drainTarget_frame now name configured progress).1
  by_cases hname : target = name
  · subst hname
    cases hstate : p.targets.get? target with
    | none =>
      refine keepsTuning_of_get?_eq hsettings ?_
      rw [drainTarget, hstate]
      exact hstate
    | some state =>
      refine keepsTuning_of_stateOf (state.drained now) hsettings ?_ ?_
      · rw [drainTarget, hstate]
        exact (Dict.get?_insert ..).trans (if_pos rfl)
      · rw [stateOf_of_get? hstate]
        rfl
  · exact keepsTuning_of_get?_eq hsettings
      (sameStage_drainTarget configured now hname p progress).pipeline.state

section Steps

variable {order : List String → List String} {stage next : DrainStage} {now : Instant}

/-- A step of a drain keeps the tuning of a target that it does not forget. -/
theorem DrainStage.Steps.keepsTuning (h : stage.Steps order p now q next)
    (hkept : ¬stage.Forgets target p) : KeepsTuning target p q := by
  cases h with
  | read => exact keepsTuning_of_get?_eq rfl rfl
  | list configured => exact keepsTuning_of_get?_eq rfl rfl
  | drain configured name left progress =>
    exact keepsTuning_drainTarget p target configured now progress name
  | drained configured progress => exact keepsTuning_of_get?_eq rfl rfl
  | prune name left batches =>
    refine keepsTuning_of_get?_eq (p.prune_frame name).1 ?_
    rw [get?_targets_prune]
    cases hstate : p.targets.get? target with
    | none => rfl
    | some state =>
      have hwaits : ¬(target = name ∧ state.queue.isEmpty = true) := by
        rintro ⟨rfl, hempty⟩
        exact hkept ⟨⟨left, batches, rfl⟩, state, hstate, hempty⟩
      rw [Option.filter_some, if_pos (by simpa [or_iff_not_imp_left] using hwaits)]
  | finish batches => exact keepsTuning_of_get?_eq rfl rfl

/-- A target that a drain forgets has no state, so nobody has tuned it. -/
theorem DrainStage.Steps.untuned (h : stage.Steps order p now q next)
    (hforgets : stage.Forgets target p) : q.Untuned target := by
  obtain ⟨⟨left, batches, rfl⟩, state, hstate, hempty⟩ := hforgets
  cases h with
  | prune =>
    intro later hlater
    rw [get?_targets_prune, hstate, Option.filter_some, if_neg (by simp [hempty])] at hlater
    cases hlater

end Steps

end Tuning

/-! ## Targets that are configured when a drain begins -/

/-- A drain is not going to forget a target. -/
def DrainStage.Spares (target : String) : DrainStage → Prop
  | reading => True
  | listing configured => target ∈ configured
  | draining configured _ progress => target ∈ configured ∧ target ∉ progress.idle
  | pruning left _ => target ∉ left
  | finished _ => True

section Spared

variable {target : String} {order : List String → List String} {p q : Pipeline}
  {stage next : DrainStage} {now : Instant}

/-- A step of a drain changes nothing that is known. -/
theorem DrainStage.Steps.registry_eq (h : stage.Steps order p now q next) :
    q.registry = p.registry := by
  cases h with
  | drain configured name left progress =>
    exact (p.drainTarget_frame now name configured progress).2
  | prune name left batches => exact (p.prune_frame name).2
  | _ => rfl

/-- Only targets that nobody had configured are found idle. -/
theorem mem_idle_drainTarget {configured : List String} {progress : DrainProgress} {name : String}
    (h : target ∈ (p.drainTarget configured now progress name).2.idle) :
    target ∈ progress.idle ∨ target ∉ configured := by
  unfold drainTarget at h
  split at h
  · exact .inl h
  · rcases List.mem_append.mp h with hidle | hfound
    · exact .inl hidle
    · split at hfound
      · next hempty =>
        obtain rfl := List.mem_singleton.mp hfound
        exact .inr (by simpa using (Bool.and_eq_true_iff.mp hempty).2)
      · cases hfound

/-- A drain that finds a target configured when it begins goes on to spare it. -/
theorem DrainStage.Spares.step (hs : stage.Spares target)
    (hconfigured : p.hasTarget target = true) (h : stage.Steps order p now q next) :
    next.Spares target := by
  cases h with
  | read => exact Dict.contains_iff.mp hconfigured
  | list configured => exact ⟨hs, List.not_mem_nil⟩
  | drain configured name left progress =>
    refine ⟨hs.1, fun hidle => ?_⟩
    rcases mem_idle_drainTarget hidle with hidle | habsent
    · exact hs.2 hidle
    · exact habsent hs.1
  | drained configured progress => exact hs.2
  | prune name left batches => exact fun hleft => hs (List.mem_cons_of_mem _ hleft)
  | finish batches => trivial

/-- What a drain spares it does not forget. -/
theorem DrainStage.Spares.not_forgets (hs : stage.Spares target) : ¬stage.Forgets target p := by
  rintro ⟨⟨left, batches, rfl⟩, -⟩
  exact hs List.mem_cons_self

end Spared

/-! ## Sections -/

namespace UnderWay

section Sections

variable {s t : UnderWay} {act : Section} {target : String}

/-- What is known about a target changes only in the first step of a push to it, which leaves the
second step to be taken. -/
theorem Enters.known (h : s.Enters act t) (target : String) :
    t.pipeline.registry.targets.get? target = s.pipeline.registry.targets.get? target ∨
      ∃ config, (target, config) ∈ t.pushes ∧
        t.pipeline.registry.targets.get? target = some (.ofConfig config) := by
  cases h with
  | refused => exact .inl rfl
  | @registered name config =>
    have hknown := get?_known_register s.pipeline target name config
    by_cases hname : target = name
    · subst hname
      exact .inr ⟨config, List.mem_cons_self, hknown.trans (if_pos rfl)⟩
    · exact .inl (hknown.trans (if_neg hname))
  | retuned => exact .inl rfl
  | appended name now record =>
    exact .inl (congrArg (·.targets.get? target) (known_appendRecord s.pipeline name now record))
  | drained hstep => exact .inl (congrArg (·.targets.get? target) hstep.registry_eq)

/-- A target that is configured stays so in every section. -/
theorem Enters.hasTarget (h : s.Enters act t) (hs : s.pipeline.hasTarget target = true) :
    t.pipeline.hasTarget target = true := by
  rw [hasTarget_eq_isSome] at hs ⊢
  rcases h.known target with hknown | ⟨config, -, hknown⟩
  · rwa [hknown]
  · rw [hknown, Option.isSome_some]

/-- A push is under way until its second step. -/
theorem Enters.mem_pushes (h : s.Enters act t) {config : TargetConfig}
    (hpush : (target, config) ∈ s.pushes) :
    (target, config) ∈ t.pushes ∨ act = .retune target config := by
  cases h with
  | registered => exact .inl (List.mem_cons_of_mem _ hpush)
  | @retuned name other =>
    by_cases hsame : (target, config) = (name, other)
    · obtain ⟨rfl, rfl⟩ := Prod.mk.inj hsame
      exact .inr rfl
    · exact .inl ((List.mem_erase_of_ne hsame).mpr hpush)
  | _ => exact .inl hpush

/-- A section that does not tune a target keeps its tuning, unless it is the drain and forgets the
target. -/
theorem Enters.keepsTuning (h : s.Enters act t) (hact : ∀ config, act ≠ .retune target config)
    (hkept : ∀ now, act = .drain now → ¬s.drain.Forgets target s.pipeline) :
    KeepsTuning target s.pipeline t.pipeline := by
  cases h with
  | refused => exact keepsTuning_of_get?_eq rfl rfl
  | registered => exact keepsTuning_of_get?_eq rfl rfl
  | @retuned name config =>
    have hname : target ≠ name := by
      rintro rfl
      exact hact config rfl
    exact keepsTuning_retune hname s.pipeline config.queue
  | appended name now record => exact keepsTuning_appendRecord s.pipeline target name now record
  | @drained now _ _ hstep => exact hstep.keepsTuning (hkept now rfl)

/-- A target that nobody has tuned stays so unless a push tunes it. -/
theorem Enters.untuned (h : s.Enters act t) (hs : s.pipeline.Untuned target)
    (hact : ∀ config, act ≠ .retune target config) : t.pipeline.Untuned target := by
  by_cases hforgets : s.drain.Forgets target s.pipeline ∧ ∃ now, act = .drain now
  · obtain ⟨hforgets, now, rfl⟩ := hforgets
    cases h with
    | drained hstep => exact hstep.untuned hforgets
  · refine (h.keepsTuning hact ?_).untuned hs
    rintro now rfl hnow
    exact hforgets ⟨hnow, now, rfl⟩

/-- The drain goes on to spare a target that is configured. -/
theorem Enters.spares (h : s.Enters act t) (hs : s.pipeline.hasTarget target = true)
    (hspares : s.drain.Spares target) : t.drain.Spares target := by
  cases h with
  | drained hstep => exact hspares.step hs hstep
  | _ => exact hspares

end Sections

/-! ## Interleavings -/

/-- The drain forgets a target after the last push to it has tuned its queue. -/
def Overtakes (s : UnderWay) (target : String) (sections : List Section) : Prop :=
  ∃ before now rest between, sections = before ++ .drain now :: rest ∧
    s.run? before = some between ∧ between.drain.Forgets target between.pipeline ∧
    ∀ config, .retune target config ∉ rest

/-- The drain reads the configured targets while this one is not among them. -/
def Misses (s : UnderWay) (target : String) (sections : List Section) : Prop :=
  ∃ before now rest between, sections = before ++ .drain now :: rest ∧
    s.run? before = some between ∧ between.drain = .reading ∧
    between.pipeline.hasTarget target = false

section Run

variable {s t : UnderWay} {sections : List Section} {target : String}

/-- The last section of an interleaving comes after the others. -/
theorem exists_of_run?_concat {last : Section} (h : s.run? (sections ++ [last]) = some t) :
    ∃ between, s.run? sections = some between ∧ between.Enters last t := by
  rw [run?_concat, Option.bind_eq_some_iff] at h
  obtain ⟨between, hbetween, hlast⟩ := h
  exact ⟨between, hbetween, enters_of_enter? hlast⟩

/-- A target that is configured when the calls begin is spared by the drain all along. -/
theorem hasTarget_and_spares_of_run? (h : s.run? sections = some t)
    (hs : s.pipeline.hasTarget target = true) (hspares : s.drain.Spares target) :
    t.pipeline.hasTarget target = true ∧ t.drain.Spares target := by
  induction sections using List.reverseRecOn generalizing t with
  | nil =>
    obtain rfl := Option.some.inj h
    exact ⟨hs, hspares⟩
  | append_singleton sections last ih =>
    obtain ⟨between, hbetween, hlast⟩ := exists_of_run?_concat h
    obtain ⟨hconfigured, hspared⟩ := ih hbetween
    exact ⟨hlast.hasTarget hconfigured, hlast.spares hconfigured hspared⟩

/-- A drain overtakes no push to a target that was configured before. -/
theorem not_overtakes_of_hasTarget {p : Pipeline} (hp : p.hasTarget target = true)
    (order : List String → List String) (sections : List Section) :
    ¬(start p order).Overtakes target sections := by
  rintro ⟨before, now, rest, between, -, hbetween, hforgets, -⟩
  have hreading : (start p order).drain.Spares target := trivial
  exact (hasTarget_and_spares_of_run? hbetween hp hreading).2.not_forgets hforgets

/-- Only the drain moves the drain on. -/
theorem Enters.drain_eq_or {act : Section} (h : s.Enters act t) :
    t.drain = s.drain ∨ ∃ now, act = .drain now := by
  cases h with
  | @drained now => exact .inr ⟨now, rfl⟩
  | _ => exact .inl rfl

/-- A drain that does no longer read has read in some section before. -/
theorem exists_reading_of_run? (h : s.run? sections = some t) (hs : s.drain = .reading)
    (ht : t.drain ≠ .reading) :
    ∃ before now rest between, sections = before ++ .drain now :: rest ∧
      s.run? before = some between ∧ between.drain = .reading := by
  induction sections using List.reverseRecOn generalizing t with
  | nil =>
    obtain rfl := Option.some.inj h
    exact absurd hs ht
  | append_singleton sections last ih =>
    obtain ⟨between, hbetween, hlast⟩ := exists_of_run?_concat h
    by_cases hreading : between.drain = .reading
    · rcases hlast.drain_eq_or with hdrain | ⟨now, rfl⟩
      · exact absurd (hdrain.trans hreading) ht
      · exact ⟨sections, now, [], between, rfl, hbetween, hreading⟩
    · obtain ⟨before, now, rest, earlier, rfl, hearlier⟩ := ih hbetween hreading
      exact ⟨before, now, rest ++ [last], earlier, by simp, hearlier⟩

/-- A drain that overtakes a push has missed its target when it read the configured ones. -/
theorem Overtakes.misses (h : s.Overtakes target sections) (hs : s.drain = .reading) :
    s.Misses target sections := by
  obtain ⟨before, now, rest, between, rfl, hbetween, hforgets, -⟩ := h
  have hpruning : between.drain ≠ .reading := by
    obtain ⟨⟨left, batches, hdrain⟩, -⟩ := hforgets
    simp [hdrain]
  obtain ⟨earlier, read, later, reading, rfl, hreading, hdrain⟩ :=
    exists_reading_of_run? hbetween hs hpruning
  refine ⟨earlier, read, later ++ .drain now :: rest, reading, by simp, hreading, hdrain, ?_⟩
  rw [← Bool.not_eq_true]
  intro hconfigured
  have hspares : reading.drain.Spares target := by
    rw [hdrain]
    trivial
  rw [run?_append, hreading, Option.bind_some] at hbetween
  exact (hasTarget_and_spares_of_run? hbetween hconfigured hspares).2.not_forgets hforgets

/-- A push that was overtaken stays so until another one tunes its target. -/
theorem Overtakes.concat (h : s.Overtakes target sections) {last : Section}
    (hlast : ∀ config, last ≠ .retune target config) :
    s.Overtakes target (sections ++ [last]) := by
  obtain ⟨before, now, rest, between, rfl, hbetween, hforgets, hrest⟩ := h
  refine ⟨before, now, rest ++ [last], between, by simp, hbetween, hforgets, ?_⟩
  intro config hmem
  rcases List.mem_append.mp hmem with hmem | hmem
  · exact hrest config hmem
  · exact hlast config (List.mem_singleton.mp hmem).symm

/-- A push that is overtaken in the rest of an interleaving is overtaken in the whole. -/
theorem Overtakes.of_append {before rest : List Section} (hbefore : s.run? before = some t)
    (h : t.Overtakes target rest) : s.Overtakes target (before ++ rest) := by
  obtain ⟨earlier, now, later, between, rfl, hbetween, hforgets, hlater⟩ := h
  refine ⟨before ++ earlier, now, later, between, by simp, ?_, hforgets, hlater⟩
  rw [run?_append, hbefore, Option.bind_some, hbetween]

/-- The tuning of a target lasts while no push tunes it and the drain does not forget the target. -/
theorem tuned_of_run? {tuning : Tuning} (h : s.run? sections = some t)
    (hs : s.pipeline.Tuned target tuning) (hpushes : ∀ config, .retune target config ∉ sections)
    (hkept : ¬s.Overtakes target sections) : t.pipeline.Tuned target tuning := by
  induction sections using List.reverseRecOn generalizing t with
  | nil =>
    obtain rfl := Option.some.inj h
    exact hs
  | append_singleton sections last ih =>
    obtain ⟨between, hbetween, hlast⟩ := exists_of_run?_concat h
    have hother : ∀ config, last ≠ .retune target config := by
      rintro config rfl
      exact hpushes config (by simp)
    have htuned : between.pipeline.Tuned target tuning :=
      ih hbetween (fun config hmem => hpushes config (List.mem_append_left _ hmem))
        fun hovertakes => hkept (hovertakes.concat hother)
    refine (hlast.keepsTuning hother ?_).tuned htuned
    rintro now rfl hforgets
    exact hkept ⟨sections, now, [], between, rfl, hbetween, hforgets, fun _ => List.not_mem_nil⟩

/-- A target that nobody has tuned stays so while no push tunes it. -/
theorem untuned_of_run? (h : s.run? sections = some t) (hs : s.pipeline.Untuned target)
    (hpushes : ∀ config, .retune target config ∉ sections) : t.pipeline.Untuned target := by
  induction sections using List.reverseRecOn generalizing t with
  | nil =>
    obtain rfl := Option.some.inj h
    exact hs
  | append_singleton sections last ih =>
    obtain ⟨between, hbetween, hlast⟩ := exists_of_run?_concat h
    refine hlast.untuned (ih hbetween fun config hmem => ?_) ?_
    · exact hpushes config (List.mem_append_left _ hmem)
    · rintro config rfl
      exact hpushes config (by simp)

/-- What a drain overtakes is forgotten, and nobody tunes it again. -/
theorem Overtakes.untuned (h : s.Overtakes target sections) (hrun : s.run? sections = some t) :
    t.pipeline.Untuned target := by
  obtain ⟨before, now, rest, between, rfl, hbetween, hforgets, hrest⟩ := h
  rw [run?_append, hbetween, Option.bind_some, run?_cons, Option.bind_eq_some_iff] at hrun
  obtain ⟨next, hnext, hrest'⟩ := hrun
  have huntuned : next.pipeline.Untuned target := by
    cases enters_of_enter? hnext with
    | drained hstep => exact hstep.untuned hforgets
  exact untuned_of_run? hrest' huntuned hrest

/-- A configured target was configured from the beginning, or a push to it is under way, or one has
tuned it. -/
theorem pushed_of_hasTarget (h : s.run? sections = some t)
    (ht : t.pipeline.hasTarget target = true) :
    s.pipeline.hasTarget target = true ∨ (∃ config, (target, config) ∈ t.pushes) ∨
      ∃ config, .retune target config ∈ sections := by
  induction sections using List.reverseRecOn generalizing t with
  | nil =>
    obtain rfl := Option.some.inj h
    exact .inl ht
  | append_singleton sections last ih =>
    obtain ⟨between, hbetween, hlast⟩ := exists_of_run?_concat h
    rcases hlast.known target with hknown | ⟨config, hpush, -⟩
    · rw [hasTarget_eq_isSome, hknown, ← hasTarget_eq_isSome] at ht
      rcases ih hbetween ht with hstart | ⟨config, hpush⟩ | ⟨config, htuned⟩
      · exact .inl hstart
      · rcases hlast.mem_pushes hpush with hpush | rfl
        · exact .inr (.inl ⟨config, hpush⟩)
        · exact .inr (.inr ⟨config, by simp⟩)
      · exact .inr (.inr ⟨config, List.mem_append_left _ htuned⟩)
    · exact .inr (.inl ⟨config, hpush⟩)

end Run

end UnderWay

/-- The tuning that a section gives to a target. -/
def Section.tuning? (target : String) : Section → Option Tuning
  | .retune name config => if name = target then some config.queue else none
  | _ => none

/-- The tuning of the accepted push to a target whose second step came last. -/
def lastTuning? (target : String) (sections : List Section) : Option Tuning :=
  sections.reverse.findSome? (Section.tuning? target)

/-- A section gives a target no tuning if it is not the second step of a push to it. -/
theorem Section.tuning?_eq_none_iff {target : String} {act : Section} :
    act.tuning? target = none ↔ ∀ config, act ≠ .retune target config := by
  cases act with
  | retune name config =>
    by_cases hname : name = target
    · simp [tuning?, hname]
    · simp [tuning?, hname]
  | _ => simp [tuning?]

/-- Sections give a target no tuning if none of them is the second step of a push to it. -/
theorem lastTuning?_eq_none_iff {target : String} {sections : List Section} :
    lastTuning? target sections = none ↔ ∀ config, .retune target config ∉ sections := by
  simp only [lastTuning?, List.findSome?_eq_none_iff, List.mem_reverse,
    Section.tuning?_eq_none_iff]
  exact ⟨fun h config hmem => h _ hmem config rfl, fun h act hmem config heq =>
    h config (heq ▸ hmem)⟩

/-- After the last second step of a push to a target no other push tunes it. -/
theorem exists_last_retune {target : String} {sections : List Section} {tuning : Tuning}
    (h : lastTuning? target sections = some tuning) :
    ∃ before config rest, sections = before ++ .retune target config :: rest ∧
      config.queue = tuning ∧ ∀ other, .retune target other ∉ rest := by
  obtain ⟨later, act, earlier, hsplit, hact, hlater⟩ := List.findSome?_eq_some_iff.mp h
  have hsections : sections = earlier.reverse ++ act :: later.reverse := by
    rw [← List.reverse_reverse sections, hsplit]
    simp
  cases act with
  | retune name config =>
    rw [Section.tuning?] at hact
    split at hact
    · next hname =>
      subst hname
      refine ⟨earlier.reverse, config, later.reverse, hsections, Option.some.inj hact, ?_⟩
      intro other hmem
      have hnone := hlater _ (List.mem_reverse.mp hmem)
      exact Section.tuning?_eq_none_iff.mp hnone other rfl
    · cases hact
  | _ => cases hact

/-- After an interleaving that does not overtake a push, a configured target has a state with the
tuning of the last push to it. -/
theorem tuned_of_not_overtakes {settings : Settings} {calls : List Call}
    {order : List String → List String} {sections : List Section} {s : UnderWay} {target : String}
    (hrun : (UnderWay.start ((fresh settings).after calls) order).run? sections = some s)
    (hreturned : s.Returned) (hconfigured : s.pipeline.hasTarget target = true)
    (hkept :
      ¬(UnderWay.start ((fresh settings).after calls) order).Overtakes target sections) :
    ∃ state, s.pipeline.targets.get? target = some state ∧
      (lastTuning? target sections).or (lastPush? target calls) = some state.queue.tuning := by
  cases htuning : lastTuning? target sections with
  | some tuning =>
    obtain ⟨before, config, rest, rfl, rfl, hlast⟩ := exists_last_retune htuning
    rw [UnderWay.run?_append, Option.bind_eq_some_iff] at hrun
    obtain ⟨between, hbefore, hrest⟩ := hrun
    rw [UnderWay.run?_cons, Option.bind_eq_some_iff] at hrest
    obtain ⟨next, hnext, hrest⟩ := hrest
    have htuned : next.pipeline.Tuned target config.queue := by
      cases UnderWay.enters_of_enter? hnext with
      | retuned => exact tuned_retune between.pipeline target config.queue
    have hlater : ¬next.Overtakes target rest := by
      intro hovertakes
      refine hkept ?_
      rw [List.append_cons]
      refine hovertakes.of_append ?_
      rw [UnderWay.run?_concat, hbefore, Option.bind_some, hnext]
    obtain ⟨state, hstate, heq⟩ := UnderWay.tuned_of_run? hrest htuned hlast hlater
    exact ⟨state, hstate, by rw [Option.some_or, heq]⟩
  | none =>
    have hpushes := lastTuning?_eq_none_iff.mp htuning
    -- no push has taken its second step, so none was accepted
    have hstart : ((fresh settings).after calls).hasTarget target = true := by
      rcases UnderWay.pushed_of_hasTarget hrun hconfigured with
        hstart | ⟨config, hpush⟩ | ⟨config, hmem⟩
      · exact hstart
      · rw [hreturned.1] at hpush
        cases hpush
      · exact absurd hmem (hpushes config)
    obtain ⟨state, hstate, hpushed⟩ :=
      (consistentAt_after settings target calls).configured hstart
    have htuned : ((fresh settings).after calls).Tuned target state.queue.tuning :=
      ⟨state, hstate, rfl⟩
    obtain ⟨last, hlast, heq⟩ := UnderWay.tuned_of_run? hrun htuned hpushes hkept
    exact ⟨last, hlast, by rw [Option.none_or, hpushed, heq]⟩

/-- **A push survives a drain unless the drain overtakes it.** Take any interleaving of one drain
with any number of pushes and appends, from any pipeline that a run leads to, whatever the order in
which the drain goes over the targets. When every call has returned, each configured target has a
state, with the tuning of the last accepted push to it, where pushes at the same time count by their
second steps; this holds of every target that was configured at first, and of every other one that
the drain does not forget after that push. If it does forget one, then it had read the configured
targets when this one was not among them; and then the target has no state, or an append has begun
one which nobody has tuned. -/
theorem push_survives_drain (settings : Settings) (calls : List Call)
    (order : List String → List String) (sections : List Section) (s : UnderWay) (target : String)
    (hrun : (UnderWay.start ((fresh settings).after calls) order).run? sections = some s)
    (hreturned : s.Returned) (hconfigured : s.pipeline.hasTarget target = true) :
    (((fresh settings).after calls).hasTarget target = true ∨
        ¬(UnderWay.start ((fresh settings).after calls) order).Overtakes target sections →
      ∃ state, s.pipeline.targets.get? target = some state ∧
        (lastTuning? target sections).or (lastPush? target calls) = some state.queue.tuning) ∧
    ((UnderWay.start ((fresh settings).after calls) order).Overtakes target sections →
      (UnderWay.start ((fresh settings).after calls) order).Misses target sections ∧
        s.pipeline.Untuned target) := by
  refine ⟨fun hkept => tuned_of_not_overtakes hrun hreturned hconfigured ?_,
    fun hovertakes => ⟨hovertakes.misses rfl, hovertakes.untuned hrun⟩⟩
  exact hkept.elim (fun h => UnderWay.not_overtakes_of_hasTarget h order sections) id

/-- A push with a window of creations. -/
def pushOf (shortlived : Span) : TargetConfig :=
  { queue := { shortlived } }

/-- The two steps of a push to a configured site come before and after a drain of its queue. -/
def siteSections : List Section :=
  [.drain (.ofSeconds 18000), .register "site" (pushOf (.ofSeconds 90)),
    .drain (.ofSeconds 18001), .append "site" (.ofSeconds 18002) (some { targetId := "vm" }),
    .drain (.ofSeconds 18003), .retune "site" (pushOf (.ofSeconds 90)),
    .drain (.ofSeconds 18004), .drain (.ofSeconds 18005)]

/-- When both calls have returned the site has the window of the push. -/
theorem site_keeps_window :
    ∃ s state,
      (UnderWay.start ((fresh {}).after [.applyConfig "site" (pushOf (.ofSeconds 55))]) id).run?
        siteSections = some s ∧
      s.Returned ∧ s.pipeline.targets.get? "site" = some state ∧
      state.queue.tuning = { shortlived := .ofSeconds 90 } := by
  obtain ⟨s, hrun, hreturned, hconfigured⟩ : ∃ s,
      (UnderWay.start ((fresh {}).after [.applyConfig "site" (pushOf (.ofSeconds 55))]) id).run?
        siteSections = some s ∧ s.Returned ∧ s.pipeline.hasTarget "site" = true :=
    ⟨_, rfl, by decide, by decide⟩
  obtain ⟨state, hstate, htuning⟩ := (push_survives_drain {} _ id siteSections s "site" hrun
    hreturned hconfigured).1 (.inl (by decide))
  have hlast : lastTuning? "site" siteSections = some { shortlived := .ofSeconds 90 } := by decide
  rw [hlast, Option.some_or] at htuning
  exact ⟨s, state, hrun, hreturned, hstate, (Option.some.inj htuning).symm⟩

/-- A site is configured right after a drain has read the configured targets. -/
def surprisedSections : List Section :=
  [.drain (.ofSeconds 18000), .register "site" {}, .retune "site" {},
    .drain (.ofSeconds 18001), .drain (.ofSeconds 18002), .drain (.ofSeconds 18003),
    .drain (.ofSeconds 18004), .drain (.ofSeconds 18005)]

/-- A push may be accepted, take both its steps and be gone with the drain that it ran beside: then
its target is configured and has no state. -/
theorem not_every_push_survives_drain :
    ¬∀ (settings : Settings) (calls : List Call) (order : List String → List String)
      (sections : List Section) (s : UnderWay) (target : String),
      (UnderWay.start ((fresh settings).after calls) order).run? sections = some s → s.Returned →
      s.pipeline.hasTarget target = true →
      ∃ state, s.pipeline.targets.get? target = some state ∧
        (lastTuning? target sections).or (lastPush? target calls) = some state.queue.tuning := by
  intro hsurvives
  obtain ⟨s, hrun, hreturned, hconfigured, hforgotten⟩ : ∃ s,
      (UnderWay.start ((fresh {}).after []) id).run? surprisedSections = some s ∧ s.Returned ∧
        s.pipeline.hasTarget "site" = true ∧ s.pipeline.targets.get? "site" = none :=
    ⟨_, rfl, by decide, by decide, by decide⟩
  obtain ⟨state, hstate, -⟩ := hsurvives {} [] id surprisedSections s "site" hrun hreturned
    hconfigured
  rw [hforgotten] at hstate
  cases hstate

end CloudCollector.Pipeline
