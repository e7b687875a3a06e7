import CloudCollector.Proofs.Config
import CloudCollector.Proofs.Delivery.Independence
import CloudCollector.Proofs.Delivery.Loops
import CloudCollector.Proofs.Registry
import CloudCollector.Scheduler.Basic

/-!
# A checked configuration starts

Whoever starts a collector checks its configuration once more on the way: the exporter looks at the
name of its compression, each push at its target and its tuning, and a loop without a period never
runs. All of them accept what the check of the configuration has accepted. So only the address can
keep an agent from starting, and a started one has the listed targets and no others.
-/

namespace CloudCollector

namespace Pipeline

/-! ## Pushes one after the other -/

/-- Pushes of the configurations of targets. -/
def pushes (entries : List (String × TargetConfig)) : List Call :=
  entries.map fun entry => .applyConfig entry.1 entry.2

section Pushes

variable {p : Pipeline} {name : String} {config : TargetConfig}

/-- An accepted push takes both its steps. -/
theorem applyConfig_fst_of_ok (p : Pipeline) (h : checkConfig name config = .ok ()) :
    (p.applyConfig name config).1 =
      ((p.register name config).retune name config.queue).countTargets := by
  rw [applyConfig, h]

/-- An accepted push defines the namespace of its target, and no other one. -/
theorem get?_known_applyConfig (h : checkConfig name config = .ok ()) (target : String) :
    (p.applyConfig name config).1.registry.targets.get? target =
      if target = name then some (.ofConfig config) else p.registry.targets.get? target := by
  rw [applyConfig_fst_of_ok p h]
  exact p.get?_known_register target name config

/-- A target that had no state has a fresh one after its push. -/
theorem get?_targets_applyConfig_of_new (h : checkConfig name config = .ok ())
    (hnew : p.targets.get? name = none) (target : String) :
    (p.applyConfig name config).1.targets.get? target =
      if target = name then some (.fresh config.queue) else p.targets.get? target := by
  rw [applyConfig_fst_of_ok p h]
  have hretuned := (p.register name config).get?_targets_retune target name config.queue
  have hsame : (p.register name config).targets.get? name = none := hnew
  rw [hsame] at hretuned
  exact hretuned

/-- After the pushes to some targets each of them is known by its push and has a fresh state, if it
had none before. The other targets are as they were. -/
theorem get?_after_pushes {entries : List (String × TargetConfig)}
    (hincreasing : entries.Pairwise fun a b => a.1 < b.1)
    (haccepted : ∀ entry ∈ entries, checkConfig entry.1 entry.2 = .ok ())
    (hnew : ∀ entry ∈ entries, p.targets.get? entry.1 = none) (target : String) :
    (p.after (pushes entries)).registry.targets.get? target =
        ((Dict.findEntry target entries).map .ofConfig).or (p.registry.targets.get? target) ∧
      (p.after (pushes entries)).targets.get? target =
        ((Dict.findEntry target entries).map fun config => .fresh config.queue).or
          (p.targets.get? target) := by
  induction entries generalizing p with
  | nil => exact ⟨rfl, rfl⟩
  | cons first rest ih =>
    obtain ⟨hfirst, hrest⟩ := List.pairwise_cons.mp hincreasing
    obtain ⟨hpush, haccepted⟩ := List.forall_mem_cons.mp haccepted
    obtain ⟨habsent, hnew⟩ := List.forall_mem_cons.mp hnew
    have hknown := get?_known_applyConfig (p := p) hpush
    have hstate := get?_targets_applyConfig_of_new hpush habsent
    have hafter : p.after (pushes (first :: rest)) =
        (p.applyConfig first.1 first.2).1.after (pushes rest) := rfl
    have hnew' : ∀ entry ∈ rest,
        (p.applyConfig first.1 first.2).1.targets.get? entry.1 = none := fun entry hentry => by
      have hne : entry.1 ≠ first.1 := fun heq =>
        absurd (heq ▸ hfirst entry hentry) (String.lt_irrefl _)
      rw [hstate, if_neg hne]
      exact hnew entry hentry
    rw [hafter, (ih hrest haccepted hnew').1, (ih hrest haccepted hnew').2, hknown, hstate,
      Dict.findEntry]
    by_cases htarget : target = first.1
    · -- no target is pushed twice
      have hlast : Dict.findEntry target rest = none := Dict.findEntry_eq_none (htarget ▸ hfirst)
      rw [if_pos htarget, if_pos htarget, if_pos htarget, hlast]
      exact ⟨rfl, rfl⟩
    · rw [if_neg htarget, if_neg htarget, if_neg htarget]
      exact ⟨rfl, rfl⟩

end Pushes

end Pipeline

namespace Dispatch

/-- To the targets a run amounts to calls. -/
theorem exists_sameTargets_after (w : Dispatch) (acts : List Act) :
    ∃ calls, (w.after acts).pipeline.SameTargets (w.pipeline.after calls) := by
  induction acts generalizing w with
  | nil => exact ⟨[], .refl _⟩
  | cons act rest ih =>
    obtain ⟨calls, hrest⟩ := ih (w.perform act)
    refine ⟨w.calls act ++ calls, ?_⟩
    rw [Pipeline.after_append]
    exact hrest.trans ((w.sameStores_perform act).sameTargets.after calls)

end Dispatch

namespace Agent

variable {config : Config}

/-- Accepted pushes of the configured targets are taken one after the other. -/
theorem foldlM_applyTarget {entries : List (String × TargetConfig)}
    (haccepted : ∀ entry ∈ entries, Pipeline.checkConfig entry.1 entry.2 = .ok ())
    (p : Pipeline) :
    entries.foldlM applyTarget p = .ok (p.after (Pipeline.pushes entries)) := by
  induction entries generalizing p with
  | nil => rfl
  | cons first rest ih =>
    obtain ⟨hpush, hrest⟩ := List.forall_mem_cons.mp haccepted
    have hfirst : applyTarget p first = .ok (p.applyConfig first.1 first.2).1 := by
      rw [applyTarget, Pipeline.applyConfig, hpush]
    rw [List.foldlM_cons, bind_eq_ok_iff]
    exact ⟨_, hfirst, ih hrest _⟩

/-- A sound configuration sets up its exporter. -/
theorem exists_ofConfig (h : config.Sound) :
    ∃ exporter, Exporter.ofConfig config = .ok exporter := by
  unfold Exporter.ofConfig
  cases hmode : config.mode with
  | log => exact ⟨.log, rfl⟩
  | http =>
    obtain ⟨-, -, -, -, hcompression⟩ := h.http hmode
    obtain ⟨compression, hname⟩ :=
      Option.isSome_iff_exists.mp (Config.mem_compressionNames_iff.mp hcompression)
    exact ⟨.http config.http compression, by rw [HttpSink.check, hname]; rfl⟩

/-- The pipeline takes every push of a sound configuration. -/
theorem checkConfig_of_sound (h : config.Sound) {target : String} {pushed : TargetConfig}
    (hlisted : config.targets.get? target = some pushed) :
    Pipeline.checkConfig target pushed = .ok () := by
  obtain ⟨hname, hqueue, -⟩ := h.targets target pushed hlisted
  exact Pipeline.checkConfig_eq_ok_iff.mpr ⟨hname, hqueue⟩

/-- Each listed target of a sound configuration has a push that is accepted. -/
theorem checkConfig_of_mem (h : config.Sound) :
    ∀ entry ∈ config.targets.entries, Pipeline.checkConfig entry.1 entry.2 = .ok () :=
  fun _ hentry => checkConfig_of_sound h (Dict.mem_entries_iff.mp hentry)

/-- The agent that a configuration starts. -/
structure StartsFrom (agent : Agent) (config : Config) : Prop where
  config_eq : agent.config = config
  exporter : Exporter.ofConfig config = .ok agent.exporter
  /-- Just the listed targets are known. -/
  hasTarget : ∀ target, agent.pipeline.hasTarget target = config.targets.contains target
  /-- Just the listed targets have a state. -/
  contains : ∀ target, agent.pipeline.targets.contains target = config.targets.contains target
  /-- Each target has a namespace of its own. -/
  knows : ∀ target pushed, config.targets.get? target = some pushed →
    agent.pipeline.registry.Knows target pushed
  /-- Each target has an empty queue with the tuning of its own. -/
  state : ∀ target pushed, config.targets.get? target = some pushed →
    agent.pipeline.targets.get? target = some (.fresh pushed.queue)

/-- The agent that takes the pushes of a configuration. -/
def startedFrom (config : Config) (exporter : Exporter) : Agent :=
  { config, exporter
    pipeline := (Pipeline.fresh config.settings).after (Pipeline.pushes config.targets.entries) }

variable {exporter : Exporter}

/-- The agent that takes the pushes of a sound configuration has started from it. -/
theorem startsFrom_startedFrom (h : config.Sound)
    (hexporter : Exporter.ofConfig config = .ok exporter) :
    (startedFrom config exporter).StartsFrom config := by
  have hlookup (target : String) :=
    @Pipeline.get?_after_pushes (.fresh config.settings) _ config.targets.increasing
      (checkConfig_of_mem h) (fun _ _ => rfl) target
  have hknown (target : String) :
      (startedFrom config exporter).pipeline.registry.targets.get? target =
        (config.targets.get? target).map .ofConfig :=
    (hlookup target).1.trans Option.or_none
  have hstate (target : String) : (startedFrom config exporter).pipeline.targets.get? target =
      (config.targets.get? target).map fun pushed => .fresh pushed.queue :=
    (hlookup target).2.trans Option.or_none
  exact
    { config_eq := rfl
      exporter := hexporter
      hasTarget := fun target => by
        rw [Pipeline.hasTarget_eq_isSome, hknown, Option.isSome_map, Dict.contains_eq_isSome]
      contains := fun target => by
        rw [Dict.contains_eq_isSome, hstate, Option.isSome_map, Dict.contains_eq_isSome]
      knows := fun target pushed hlisted => by
        refine Registry.knows_of_get?_eq ?_
        rw [hknown, hlisted, Option.map_some]
      state := fun target pushed hlisted => by rw [hstate, hlisted, Option.map_some] }

/-- An agent with its exporter is put together with a fresh pipeline. -/
theorem ofConfig_eq_ok (hexporter : Exporter.ofConfig config = .ok exporter) :
    ofConfig config = .ok ⟨config, exporter, .fresh config.settings⟩ := by
  rw [ofConfig, hexporter]
  rfl

/-- Only the address can keep an agent from starting. -/
theorem startOn_eq (h : config.Sound) (binds : String → Bool) :
    startOn binds ⟨config, exporter, .fresh config.settings⟩ =
      if binds (Http.bindAddress config.address) then .ok (startedFrom config exporter)
      else .error .address := by
  rw [startOn, foldlM_applyTarget (checkConfig_of_mem h)]
  dsimp only
  cases binds (Http.bindAddress config.address) <;> rfl

end Agent

/-! ## Loops and queues of a started agent -/

/-- The loop of a task starts with its interval, and waits unless this is zero. -/
theorem Scheduler.loops_start (p : Pipeline) (intervals : PerTask Span) (limit : Span)
    (now : Instant) (task : Task) :
    ((start p intervals limit now).loops.get task).period = intervals.get task ∧
      ((start p intervals limit now).loops.get task).phase =
        if (intervals.get task).isZero then .ended else .waiting := by
  cases task <;> exact ⟨rfl, rfl⟩

/-- Whatever a started agent lives through, the tuning of each queue holds. -/
theorem Running.validate_of_leads {config : Config} {exporter : Exporter} (h : config.Sound)
    {w : Running} (hleads : (start (.startedFrom config exporter)).Leads w) {target : String}
    {state : TargetState} (hstate : w.dispatch.pipeline.targets.get? target = some state) :
    state.queue.tuning.validate = .ok () := by
  obtain ⟨moves, hrun⟩ := hleads
  obtain ⟨calls, hsame⟩ := (start (.startedFrom config exporter)).dispatch.exists_sameTargets_after
    (moves.flatMap Move.acts)
  rw [← dispatch_of_run? hrun] at hsame
  have hpipeline : (start (.startedFrom config exporter)).dispatch.pipeline.after calls =
      (Pipeline.fresh config.settings).after (Pipeline.pushes config.targets.entries ++ calls) :=
    (Pipeline.after_append ..).symm
  rw [hpipeline] at hsame
  have hsettings : w.dispatch.pipeline.settings = config.settings :=
    (hsame target).settings.trans (Pipeline.settings_after _ _)
  have hconsistent := (Pipeline.consistentAt_after config.settings target
    (Pipeline.pushes config.targets.entries ++ calls)).congr (hsame target)
  rcases hconsistent.tuning_eq_or hstate with hpushed | hdefault
  · exact Pipeline.validate_of_lastPush? hpushed
  · rw [hdefault, hsettings]
    exact h.queue

/-! ## Main result -/

namespace Agent

/-- **A checked configuration starts.** Its exporter can be set up, every pipeline takes the pushes
of its targets, and the agent starts on every machine that can bind its address, and on no other.
The started agent has just the listed targets, each with a namespace and with a tuning of its own;
each task has a loop with a period; and whatever requests and cycles follow, no queue has a tuning
that does not hold. -/
theorem checked_config_starts {config : Config} (h : config.validate = .ok ()) :
    (∀ target pushed, config.targets.get? target = some pushed →
      ∀ p : Pipeline, (p.applyConfig target pushed).2 = .ok ()) ∧
    ∃ assembled agent, ofConfig config = .ok assembled ∧
      (∀ binds : String → Bool, assembled.startOn binds =
        if binds (Http.bindAddress config.address) then .ok agent else .error .address) ∧
      agent.StartsFrom config ∧
      (∀ now task,
        let s := Scheduler.start agent.pipeline config.intervals config.callTimeout now
        (s.loops.get task).period = config.intervals.get task ∧
          0 < (s.loops.get task).period.nanos ∧ (s.loops.get task).phase = .waiting) ∧
      ∀ w, (Running.start agent).Leads w → ∀ target state,
        w.dispatch.pipeline.targets.get? target = some state →
          state.queue.tuning.validate = .ok () := by
  have hsound := Config.validate_eq_ok_iff.mp h
  obtain ⟨exporter, hexporter⟩ := exists_ofConfig hsound
  refine ⟨fun target pushed hlisted p => ?_, _, startedFrom config exporter,
    ofConfig_eq_ok hexporter, startOn_eq hsound, startsFrom_startedFrom hsound hexporter,
    fun now task => ?_, fun w hleads target state => Running.validate_of_leads hsound hleads⟩
  · rw [Pipeline.applyConfig_result]
    exact checkConfig_of_sound hsound hlisted
  · have hperiod := hsound.intervals task
    obtain ⟨hloop, hphase⟩ := Scheduler.loops_start (startedFrom config exporter).pipeline
      config.intervals config.callTimeout now task
    refine ⟨hloop, ?_, ?_⟩
    · rw [hloop]
      exact Nat.pos_of_ne_zero fun hzero => by simp [Span.isZero, hzero] at hperiod
    · rw [hphase, hperiod]
      rfl

/-- A configuration with two targets, of which one holds back new entities for twenty seconds. -/
def siteConfig : Config :=
  { address := "collector.lan:8242"
    mode := .http
    http :=
      { metricsUrl := "http://sink/metrics", eventsUrl := "http://sink/events"
        modelUrl := "http://sink/model", compression := "zstd" }
    targets := .ofList
      [("site", Registry.machineListedTwice),
        ("lab", { queue := { shortlived := .ofSeconds 20 } })] }

/-- The agent starts on the machine with the name, and not on one that binds nothing but itself. It
delivers with the configured compression, knows the machine of the site and not of the lab, and
tunes the queue of the lab. -/
theorem siteConfig_starts :
    siteConfig.validate = .ok () ∧
    ∃ assembled agent, ofConfig siteConfig = .ok assembled ∧
      assembled.startOn (· == "collector.lan:8242") = .ok agent ∧
      assembled.startOn (· == "localhost:8242") = .error .address ∧
      agent.exporter = .http siteConfig.http .zstd ∧
      agent.pipeline.registry.componentFor? "site" "vm" = some "server-vm" ∧
      agent.pipeline.registry.hasResource "lab" "vm" = false ∧
      agent.pipeline.hasTarget "plant" = false ∧
      agent.pipeline.targets.get? "lab" = some (.fresh { shortlived := .ofSeconds 20 }) := by
  have hvalid : siteConfig.validate = .ok () := rfl
  have hknown : (Http.bindAddress siteConfig.address == "collector.lan:8242") = true := by
    decide +kernel
  have hother : ¬(Http.bindAddress siteConfig.address == "localhost:8242") = true := by
    decide +kernel
  have hsite : siteConfig.targets.get? "site" = some Registry.machineListedTwice := by decide
  have hlab : siteConfig.targets.get? "lab" =
      some { queue := { shortlived := .ofSeconds 20 } } := by decide
  obtain ⟨-, assembled, agent, hassembled, hstart, hstarts, -⟩ := checked_config_starts hvalid
  refine ⟨hvalid, assembled, agent, hassembled, (hstart _).trans (if_pos hknown),
    (hstart _).trans (if_neg hother), ?_, ?_, ?_, ?_, hstarts.state "lab" _ hlab⟩
  · exact (Except.ok.inj hstarts.exporter).symm
  · exact ((hstarts.knows "site" _ hsite).componentFor? "vm").trans (by decide)
  · rw [← Bool.not_eq_true, (hstarts.knows "lab" _ hlab).hasResource]
    decide
  · exact (hstarts.hasTarget "plant").trans (by decide)

end Agent

end CloudCollector
