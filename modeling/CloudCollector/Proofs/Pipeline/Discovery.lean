import CloudCollector.Proofs.Pipeline.SightingHistory

/-!
# Where discovered children come from

Telemetry and discovery are apart in time. When samples are taken, their meter and the registry
decide whether an id is noted; when a discovery follows, the id, the registry of that time and the
rules decide whether it becomes a child, and which one. Nothing else passes from the one to the
other: neither which rule the meter matched, nor that nobody modeled the id back then.
-/

namespace CloudCollector

namespace Pipeline

/-! ## Which ids a discovery recognizes -/

section Discovered

variable {settings : Settings} {calls : List Call} {now : Instant} {target id : String}

/-- A discovery recognizes an id by what a run did to the sightings, and by the rules and parents of
its own time. -/
theorem exists_mem_discovered_iff :
    (∃ record, (id, record) ∈ ((fresh settings).after calls).discovered now target) ↔
      (∃ seen,
        Sightings.firstNote? id ((fresh settings).sightingHistory target calls) = some seen ∧
          now.since seen < settings.horizon) ∧
      id ∉ Sightings.emissions {} ((fresh settings).sightingHistory target calls) ∧
      ∃ rule ∈ settings.rules, rule.Fits ((fresh settings).after calls).registry target id := by
  have hsettings : ((fresh settings).after calls).settings = settings :=
    settings_after (fresh settings) calls
  rw [← Sightings.get?_potential_after, ← Sightings.isModeled_after_iff, Bool.not_eq_true,
    ← sightings_after, ← Sightings.mem_emitted_discover_iff, Sightings.emitted, List.mem_map,
    discovered, hsettings]
  simp

/-- The record of a recognized id is that of the first rule that fits. -/
theorem exists_rule_of_mem_discovered {record : Record}
    (h : (id, record) ∈ ((fresh settings).after calls).discovered now target) :
    ∃ first rule rest, settings.rules = first ++ rule :: rest ∧
      rule.childOf? ((fresh settings).after calls).registry target id = some record ∧
      ∀ other ∈ first, ¬other.Fits ((fresh settings).after calls).registry target id := by
  have hmatch := (Sightings.mem_matched_iff.mp h).2
  rw [settings_after] at hmatch
  exact Sightings.matchCandidate_eq_some_iff.mp hmatch

/-- A recognized id was noted by a call of its own or by samples that might reveal it. -/
theorem exists_note_of_mem_discovered {record : Record}
    (h : (id, record) ∈ ((fresh settings).after calls).discovered now target) :
    (∃ seen, .note target id seen ∈ calls) ∨
      ∃ before seen samples rest, calls = before ++ .ingestSamples target seen samples :: rest ∧
        id ∈ ((fresh settings).after before).revealed target samples := by
  obtain ⟨⟨seen, hseen, -⟩, -⟩ := exists_mem_discovered_iff.mp ⟨record, h⟩
  obtain ⟨before, call, rest, rfl, hcall⟩ :=
    exists_call_of_mem_sightingHistory _ target (Sightings.mem_of_firstNote? hseen)
  rcases Call.note_mem_onSightings hcall with rfl | ⟨samples, rfl, hrevealed⟩
  · exact .inl ⟨seen, by simp⟩
  · exact .inr ⟨before, seen, samples, rest, rfl, hrevealed⟩

end Discovered

/-! ## Meters and rules -/

/-- The samples of a target that a call delivers. -/
def Call.samples (target : String) : Call → List Sample
  | .ingestSamples name _ samples => if name = target then samples else []
  | _ => []

/-- **A child comes from the first rule that fits its id.** If a discovery queues the record of a
child for an id that no call noted by itself, a sample of the id had a meter that some rule matches.
The record is that of the first rule for which a resource of its kind is a parent of the id. -/
theorem discovered_child_sampled (settings : Settings) (calls : List Call) (now : Instant)
    (target id : String) (record : Record) (hnotes : ∀ seen, .note target id seen ∉ calls)
    (hqueues : ((fresh settings).after calls).Queues now target id record) :
    (∃ sample ∈ calls.flatMap (Call.samples target), sample.resourceId = id ∧
      ∃ rule ∈ settings.rules, rule.matchesMeter sample.meter = true) ∧
    ∃ first rule rest, settings.rules = first ++ rule :: rest ∧
      rule.childOf? ((fresh settings).after calls).registry target id = some record ∧
      ∀ other ∈ first, ¬other.Fits ((fresh settings).after calls).registry target id := by
  have hfound := queues_iff.mp hqueues
  refine ⟨?_, exists_rule_of_mem_discovered hfound⟩
  rcases exists_note_of_mem_discovered hfound with
    ⟨seen, hseen⟩ | ⟨before, seen, samples, rest, hcalls, hrevealed⟩
  · exact absurd hseen (hnotes seen)
  · obtain ⟨-, sample, hsample, hid, hrule⟩ := mem_revealed_iff.mp hrevealed
    rw [settings_after] at hrule
    refine ⟨sample, List.mem_flatMap.mpr ⟨.ingestSamples target seen samples, ?_, ?_⟩, hid, hrule⟩
    · rw [hcalls]
      simp
    · rwa [Call.samples, if_pos rfl]

/-- Disks show up in the meters of disk traffic. -/
def diskRule : Rule :=
  { meterPrefix := "disk."
    parentKind := "Instance"
    childModule := "Disk"
    childRelationship := "disks"
    childIdPrefix := "disk" }

/-- The traffic of a network interface. -/
def interfaceSample : Sample :=
  { resourceId := "tap-vm-eth0", meter := "network.incoming.bytes", volume := .notANumber
    time := .ofSeconds 17010 }

/-- A site with a virtual machine has traffic on an interface that nobody models. -/
def trafficCalls : List Call :=
  [.applyConfig "site"
      { datasources :=
          [{ resourceId := "vm", component := "server-vm", componentKind := "Instance" }] },
    .ingestSamples "site" (.ofSeconds 17010) [interfaceSample]]

/-- Where the rule of disks comes first, the interface becomes a disk. -/
theorem interface_becomes_disk :
    ∃ record,
      ((fresh { rules := [diskRule, .networkInterfaces] }).after trafficCalls).Queues
        (.ofSeconds 17020) "site" "tap-vm-eth0" record ∧
      record.targetId = "disk-vm-eth0" ∧
      ∃ sample ∈ trafficCalls.flatMap (Call.samples "site"), sample.resourceId = "tap-vm-eth0" ∧
        ∃ rule ∈ [diskRule, .networkInterfaces], rule.matchesMeter sample.meter = true := by
  have hfound : ("tap-vm-eth0", diskRule.childRecord "tap-vm-eth0" "vm" "server-vm" "eth0") ∈
      ((fresh { rules := [diskRule, .networkInterfaces] }).after trafficCalls).discovered
        (.ofSeconds 17020) "site" := by decide +kernel
  have hsampled := discovered_child_sampled { rules := [diskRule, .networkInterfaces] }
    trafficCalls (.ofSeconds 17020) "site" "tap-vm-eth0" _ (by simp [trafficCalls])
    (queues_iff.mpr hfound)
  exact ⟨_, queues_iff.mpr hfound, by decide, hsampled.1⟩

/-- The rule that a child comes from need not match any meter that its id was sampled with. -/
theorem not_every_child_sampled_by_its_rule :
    ¬∀ (settings : Settings) (calls : List Call) (now : Instant) (target id : String)
      (record : Record) (first : List Rule) (rule : Rule) (rest : List Rule),
      ((fresh settings).after calls).Queues now target id record →
      settings.rules = first ++ rule :: rest →
      rule.childOf? ((fresh settings).after calls).registry target id = some record →
      (∀ other ∈ first, ¬other.Fits ((fresh settings).after calls).registry target id) →
      ∃ sample ∈ calls.flatMap (Call.samples target), sample.resourceId = id ∧
        rule.matchesMeter sample.meter = true := by
  intro hsampled
  have hdisk := hsampled { rules := [diskRule, .networkInterfaces] } trafficCalls
    (.ofSeconds 17020) "site" "tap-vm-eth0"
    (diskRule.childRecord "tap-vm-eth0" "vm" "server-vm" "eth0") [] diskRule
    [.networkInterfaces] (queues_iff.mpr (by decide +kernel)) rfl (by decide +kernel) (by simp)
  exact absurd hdisk (by decide)

/-! ## What is modeled meanwhile -/

/-- Whether a call is an accepted push that lists a resource of a target. -/
def Call.Lists (target id : String) : Call → Prop
  | .applyConfig name config =>
    name = target ∧ checkConfig name config = .ok () ∧ ∃ ds ∈ config.datasources, ds.resourceId = id
  | _ => False

section Known

variable {p : Pipeline} {target id : String}

/-- A resource becomes known by an accepted push that lists it. -/
theorem hasResource_perform {call : Call}
    (h : (p.perform call).registry.hasResource target id = true) :
    p.registry.hasResource target id = true ∨ call.Lists target id := by
  rw [Registry.hasResource, Registry.resource?] at h ⊢
  by_cases hpush : ∃ config, call = .applyConfig target config
  · obtain ⟨config, rfl⟩ := hpush
    rw [perform, step, Prod.map_fst, applyConfig] at h
    split at h
    · exact .inl h
    · next hcheck =>
      have hknown := (get?_known_register p target target config).trans (if_pos rfl)
      change (((p.register target config).registry.targets.get? target).bind _).isSome = true at h
      rw [hknown] at h
      exact .inr ⟨rfl, hcheck, Namespace.contains_resources_ofConfig.mp h⟩
  by_cases hremoval : call = .removeTarget target
  · subst hremoval
    have hknown : (p.perform (.removeTarget target)).registry.targets.get? target = none :=
      (get?_known_removeTarget p target target).trans (if_pos rfl)
    rw [hknown] at h
    cases h
  · rw [known_perform (not_exists.mp hpush) hremoval] at h
    exact .inl h

/-- A resource that becomes known in a run is listed by an accepted push of the run. -/
theorem exists_lists_of_hasResource_after {calls : List Call}
    (hbefore : p.registry.hasResource target id = false)
    (hafter : (p.after calls).registry.hasResource target id = true) :
    ∃ push ∈ calls, push.Lists target id := by
  induction calls using List.reverseRecOn with
  | nil =>
    rw [after_nil, hbefore] at hafter
    cases hafter
  | append_singleton calls call ih =>
    rw [after_concat] at hafter
    rcases hasResource_perform hafter with hknown | hlists
    · obtain ⟨push, hpush, hlists⟩ := ih hknown
      exact ⟨push, List.mem_append_left _ hpush, hlists⟩
    · exact ⟨call, by simp, hlists⟩

end Known

/-- **A discovery does not ask whether an id is modeled by now.** It queues the record of a child
for an id that was first noted less than the horizon ago, that no earlier discovery recognized, and
that some rule fits, whatever the registry knows of the id itself. If the registry knows it, then
the id was noted by a call of its own, or samples revealed it before an accepted push listed it. -/
theorem discovered_regardless_of_model (settings : Settings) (calls : List Call) (now : Instant)
    (target id : String) :
    let p := (fresh settings).after calls
    let history := (fresh settings).sightingHistory target calls
    ((∃ record, p.Queues now target id record) ↔
      (∃ seen, Sightings.firstNote? id history = some seen ∧ now.since seen < settings.horizon) ∧
      id ∉ Sightings.emissions {} history ∧
      ∃ rule ∈ settings.rules, rule.Fits p.registry target id) ∧
    ∀ record, p.Queues now target id record →
      p.registry.hasResource target id = true →
      (∃ seen, .note target id seen ∈ calls) ∨
      ∃ before seen samples rest, calls = before ++ .ingestSamples target seen samples :: rest ∧
        id ∈ ((fresh settings).after before).revealed target samples ∧
        ∃ push ∈ rest, push.Lists target id := by
  intro p history
  refine ⟨?_, fun record hqueues hknown => ?_⟩
  · simp only [queues_iff]
    exact exists_mem_discovered_iff
  refine (exists_note_of_mem_discovered (queues_iff.mp hqueues)).imp_right ?_
  rintro ⟨before, seen, samples, rest, hcalls, hrevealed⟩
  refine ⟨before, seen, samples, rest, hcalls, hrevealed, ?_⟩
  have hunknown := (mem_revealed_iff.mp hrevealed).1
  -- samples change nothing that is known, so the id is listed after them
  have hlisted : ∃ push ∈ .ingestSamples target seen samples :: rest, push.Lists target id := by
    refine exists_lists_of_hasResource_after hunknown ?_
    rw [← after_append, ← hcalls]
    exact hknown
  obtain ⟨push, hpush, hlists⟩ := hlisted
  rcases List.mem_cons.mp hpush with rfl | hrest
  · exact hlists.elim
  · exact ⟨push, hrest, hlists⟩

/-- After its interface was seen the site is configured anew, and now the interface is modeled. -/
def modeledCalls : List Call :=
  trafficCalls ++
    [.applyConfig "site"
      { datasources :=
          [{ resourceId := "vm", component := "server-vm", componentKind := "Instance" },
            { resourceId := "tap-vm-eth0", component := "server-vm-eth0"
              componentKind := "Vnic" }] }]

/-- The interface is recognized all the same, and it was a push that made it known. -/
theorem interface_recognized_though_modeled :
    ∃ record,
      ((fresh {}).after modeledCalls).Queues (.ofSeconds 17020) "site" "tap-vm-eth0" record ∧
      ((fresh {}).after modeledCalls).registry.hasResource "site" "tap-vm-eth0" = true ∧
      ∃ push ∈ modeledCalls, push.Lists "site" "tap-vm-eth0" := by
  obtain ⟨hrecognized, hmodeled⟩ := discovered_regardless_of_model {} modeledCalls
    (.ofSeconds 17020) "site" "tap-vm-eth0"
  obtain ⟨record, hqueues⟩ := hrecognized.mpr
    ⟨⟨.ofSeconds 17010, by decide, by decide⟩, by decide, by decide⟩
  have hknown : ((fresh {}).after modeledCalls).registry.hasResource "site" "tap-vm-eth0" =
      true := by decide
  refine ⟨record, hqueues, hknown, ?_⟩
  rcases hmodeled record hqueues hknown with
    ⟨seen, hnote⟩ | ⟨before, seen, samples, rest, hcalls, -, push, hpush, hlists⟩
  · exact absurd hnote (by simp [modeledCalls, trafficCalls])
  · exact ⟨push, by rw [hcalls]; simp [hpush], hlists⟩

/-- A discovery creates children that the registry knows. -/
theorem not_every_child_unmodeled :
    ¬∀ (settings : Settings) (calls : List Call) (now : Instant) (target id : String)
      (record : Record),
      ((fresh settings).after calls).Queues now target id record →
      ((fresh settings).after calls).registry.hasResource target id = false := by
  intro hunmodeled
  have hinterface := hunmodeled {} modeledCalls (.ofSeconds 17020) "site" "tap-vm-eth0"
    (Rule.networkInterfaces.childRecord "tap-vm-eth0" "vm" "server-vm" "eth0")
    (queues_iff.mpr (by decide +kernel))
  exact absurd hinterface (by decide)

end Pipeline

end CloudCollector
