import CloudCollector.Proofs.Pipeline.Refusal

/-!
# What becomes of an event

Every event of a configured target is sent on, once, whether it is understood or not. If its type
may change the model, it is tied to the component of its machine, and what it tells about the
machine is merged into the queue of the target.
-/

namespace CloudCollector

/-- An event is known and says which machine it is about. -/
def InstanceEvents.NamesMachine (e : Event) : Prop :=
  knows e.eventType = true ∧ ∃ value, e.traits.get? "instance_id" = some value ∧ value.IsScalar

/-- An event names a machine if its type is known and its instance has an id that can be read. -/
theorem InstanceEvents.namesMachine_iff {e : Event} :
    NamesMachine e ↔ knows e.eventType = true ∧ ∃ text, e.traitText "instance_id" = some text := by
  rw [NamesMachine, Event.exists_traitText_iff]

/-- How an event is sent on: with its target, with the component of its machine if it names one
and its type is listed, and with a summary. Nothing else of it changes. -/
structure Event.SentOnAs (e : Event) (target : String) (listed : Bool) (sent : Event) : Prop where
  others : sent =
    { e with targetSystem := target, component := sent.component, summary := sent.summary }
  tied : listed = true ∧ InstanceEvents.NamesMachine e →
    ∃ text, e.traitText "instance_id" = some text ∧ sent.component = "server-" ++ text
  untied : ¬(listed = true ∧ InstanceEvents.NamesMachine e) → sent.component = e.component
  kept : e.summary ≠ "" → sent.summary = e.summary
  summary_ne : sent.summary ≠ ""

/-- How the record of an event comes from it: it is about the component of the event, it does not
create and delete at once, and unless it deletes its fields are those that the traits fill. -/
structure InstanceEvents.LeadsTo (e sent : Event) (r : Record) : Prop where
  targetId : r.targetId = sent.component
  exclusive : ¬(r.creates = true ∧ r.deletes = true)
  deletion : r.deletes = true → r.fields = .empty
  fields : r.deletes = false → ∀ name value, r.fields.get? name = some value ↔
    ∃ entry ∈ traitFields, name ∈ entry.2 ∧ e.traits.get? entry.1 = some value ∧ value ≠ .null

/-- The record of a change is what the event leads to, once the event is tied to its machine. -/
theorem InstanceEvents.leadsTo_change {action : Action} {lifecycle : Lifecycle}
    (h : action.lifecycle? = some lifecycle) {e sent : Event} {instanceId : String}
    (hsent : sent.component = InstanceEvents.targetId instanceId) :
    LeadsTo e sent (change e instanceId lifecycle) where
  targetId := (targetId_change e instanceId lifecycle).trans hsent.symm
  exclusive := by
    rw [Record.creates, Record.deletes, lifecycle_change h]
    cases action <;> cases h <;> simp [Lifecycle.creates, Lifecycle.deletes]
  deletion := by
    rw [Record.deletes, lifecycle_change h]
    intro hdeletes
    rw [change, if_pos hdeletes]
    rfl
  fields := by
    rw [Record.deletes, lifecycle_change h]
    intro hkeeps name value
    rw [change, if_neg (by simp [hkeeps])]
    exact get?_fields_iff

namespace Pipeline

section Interpretation

variable (p : Pipeline) (target : String) (e : Event)

/-- An event whose type is listed is applied if it is known and names its machine. Whatever it is,
it gets a summary in the end. -/
theorem interpret_cases :
    (∃ action instanceId summary, p.registry.handlesEventType target e.eventType = true ∧
      InstanceEvents.action? e.eventType = some action ∧
      e.traitText "instance_id" = some instanceId ∧
      (e.summary ≠ "" → summary = e.summary) ∧ summary ≠ "" ∧
      p.interpret target e =
        ({ e with
            targetSystem := target, component := InstanceEvents.targetId instanceId, summary },
          action.lifecycle?.map (InstanceEvents.change e instanceId))) ∨
    (p.registry.handlesEventType target e.eventType = false ∨
        InstanceEvents.action? e.eventType = none ∨ e.traitText "instance_id" = none) ∧
      ∃ summary, (e.summary ≠ "" → summary = e.summary) ∧ summary ≠ "" ∧
        p.interpret target e = ({ e with targetSystem := target, summary }, none) := by
  have hstandard : "OpenStack: " ++ e.eventType ≠ "" := by simp
  let located : Event := { e with targetSystem := target }
  let outcome :=
    if p.registry.handlesEventType target e.eventType then InstanceEvents.apply located
    else (located, none)
  have hinterpret : p.interpret target e =
      (outcome.1.withSummary ("OpenStack: " ++ outcome.1.eventType), outcome.2) := rfl
  -- an event that is not applied stays as it is, but for its target and a missing summary
  have hplain (h : outcome = (located, none)) : ∃ summary, (e.summary ≠ "" → summary = e.summary) ∧
      summary ≠ "" ∧ p.interpret target e = ({ e with targetSystem := target, summary }, none) := by
    obtain ⟨summary, hfilled, hkept, hne⟩ :=
      Event.exists_withSummary_eq (e := located) (fun _ => rfl) hstandard
    exact ⟨summary, hkept, hne, by rw [hinterpret, h]; exact Prod.ext hfilled rfl⟩
  cases hlisted : p.registry.handlesEventType target e.eventType with
  | false => exact .inr ⟨.inl rfl, hplain (by simp [outcome, hlisted])⟩
  | true =>
    have houtcome : outcome = InstanceEvents.apply located := if_pos hlisted
    rcases InstanceEvents.apply_cases located with
      ⟨action, instanceId, told, haction, hid, htold, happly⟩ | ⟨hunknown, happly⟩
    · obtain ⟨summary, hfilled, hkept, hne⟩ := Event.exists_withSummary_eq
        (e := (InstanceEvents.apply located).1) (by rw [happly]; exact htold) hstandard
      refine .inl ⟨action, instanceId, summary, rfl, haction, hid, hkept, hne, ?_⟩
      rw [happly] at houtcome hfilled
      rw [hinterpret, houtcome]
      exact Prod.ext hfilled rfl
    · exact .inr ⟨.inr hunknown, hplain (houtcome.trans happly)⟩

/-- What is made of an event is the event as it should be sent on. -/
theorem sentOnAs_interpret :
    e.SentOnAs target (p.registry.handlesEventType target e.eventType)
      (p.interpret target e).1 := by
  rcases p.interpret_cases target e with
    ⟨action, instanceId, summary, hlisted, haction, hid, hkept, hsummary, heq⟩ |
    ⟨hunknown, summary, hkept, hsummary, heq⟩
  · have hknown : InstanceEvents.knows e.eventType = true := by
      rw [InstanceEvents.knows, haction, Option.isSome_some]
    have hnames := InstanceEvents.namesMachine_iff.mpr ⟨hknown, instanceId, hid⟩
    rw [heq]
    exact
      { others := rfl
        tied := fun _ => ⟨instanceId, hid, rfl⟩
        untied := fun h => absurd ⟨hlisted, hnames⟩ h
        kept := hkept
        summary_ne := hsummary }
  · have huntied : ¬(p.registry.handlesEventType target e.eventType = true ∧
        InstanceEvents.NamesMachine e) := by
      rw [InstanceEvents.namesMachine_iff]
      rintro ⟨hlisted, hknown, text, hid⟩
      simp [hlisted, hid] at hunknown
      simp [InstanceEvents.knows, hunknown] at hknown
    rw [heq]
    exact
      { others := rfl
        tied := fun h => absurd h huntied
        untied := fun _ => rfl
        kept := hkept
        summary_ne := hsummary }

/-- A record that is made of an event is what the event leads to. -/
theorem leadsTo_interpret {r : Record} (h : (p.interpret target e).2 = some r) :
    InstanceEvents.LeadsTo e (p.interpret target e).1 r := by
  rcases p.interpret_cases target e with
    ⟨action, instanceId, summary, -, -, -, -, -, heq⟩ | ⟨-, summary, -, -, heq⟩
  · rw [heq] at h ⊢
    obtain ⟨lifecycle, hlifecycle, rfl⟩ := Option.map_eq_some_iff.mp h
    exact InstanceEvents.leadsTo_change hlifecycle rfl
  · rw [heq] at h
    cases h

/-- An event leads to a record exactly when its type is listed, its action changes the model and it
names its machine. -/
theorem lifecycle_interpret :
    (p.interpret target e).2.map (·.lifecycle) =
      if p.registry.handlesEventType target e.eventType && (e.traitText "instance_id").isSome then
        (InstanceEvents.action? e.eventType).bind (·.lifecycle?)
      else none := by
  rcases p.interpret_cases target e with
    ⟨action, instanceId, summary, hlisted, haction, hid, -, -, heq⟩ |
    ⟨hunknown, summary, -, -, heq⟩
  · rw [heq, hlisted, haction, hid]
    cases hlifecycle : action.lifecycle? with
    | none => simp [hlifecycle]
    | some lifecycle => simp [hlifecycle, InstanceEvents.lifecycle_change hlifecycle]
  · rw [heq]
    rcases hunknown with h | h | h <;> simp [h]

end Interpretation

/-! ## Ingestion -/

/-- A record that names its entity is added to the queue of a named target with a state. -/
theorem exists_appendMapped_eq {p : Pipeline} {target : String} {state : TargetState}
    (hname : target ≠ "") (hstate : p.targets.get? target = some state) (now : Instant)
    {record? : Option Record} (hids : ∀ r, record? = some r → r.targetId ≠ "") :
    ∃ health, p.appendMapped target now record? =
      ({ p with
          targets := p.targets.insert target
            { state with queue := record?.elim state.queue (state.queue.append now) }
          health }, record?.toList.length) := by
  cases record? with
  | none => exact ⟨p.health, by rw [Option.elim_none, Dict.insert_eq_self hstate]; rfl⟩
  | some r =>
    have hcheck : checkRecord target r = .ok () := checkRecord_eq_ok_iff.mpr ⟨hname, hids r rfl⟩
    have hmapped (health : Health) : stateOf { p with health } target = state :=
      stateOf_of_get? hstate
    refine ⟨(p.appendMapped target now (some r)).1.health, ?_⟩
    simp only [appendMapped, appendRecord, hcheck, enqueue, hmapped]
    rfl

/-- **An event is sent on once, and mapped faithfully.** In every reachable pipeline, an event of a
configured target is put last among the waiting events, once, with its target, with the component
of its machine if it names one and its type is listed, and with a summary. It leads to one record
at most, to none if its type is not listed, and the answer tells how many. The record is about the
component of the event and goes into the queue of the target, where nothing else that waits is
touched. All other targets, the registry and the sightings stay, and nothing else changes but
counters. -/
theorem event_sent_on_and_mapped {p : Pipeline} (hp : p.Reachable) {target : String}
    (hconfigured : p.hasTarget target = true) (now : Instant) (e : Event) :
    let listed := p.registry.handlesEventType target e.eventType
    ∃ state sent record? queue health, p.targets.get? target = some state ∧
      p.ingestEvent target now e =
        ({ p with
            events := p.events ++ [sent]
            targets := p.targets.insert target { state with queue }
            health }, .ok record?.toList.length) ∧
      e.SentOnAs target listed sent ∧
      (∀ r, record? = some r → InstanceEvents.LeadsTo e sent r) ∧
      record?.map (·.lifecycle) =
        (if listed && (e.traitText "instance_id").isSome then
          (InstanceEvents.action? e.eventType).bind (·.lifecycle?)
        else none) ∧
      queue = record?.elim state.queue (state.queue.append now) ∧
      (∀ id, (∀ r, record? = some r → r.targetId ≠ id) →
        queue.held.get? id = state.queue.held.get? id) ∧
      ∀ other, other ≠ target →
        (p.ingestEvent target now e).1.targets.get? other = p.targets.get? other := by
  intro listed
  have hname : target ≠ "" := hp.ne_of_hasTarget hconfigured
  obtain ⟨pushed, hconsistent⟩ := hp.exists_consistentAt target
  obtain ⟨state, hstate, -⟩ := hconsistent.configured hconfigured
  let sent := (p.interpret target e).1
  let record? := (p.interpret target e).2
  let queue := record?.elim state.queue (state.queue.append now)
  have hids : ∀ r, record? = some r → r.targetId ≠ "" := fun r hr => p.targetId_ne_of_interpret hr
  let counted : Pipeline := { p with health.eventsReceived := p.health.eventsReceived + 1 }
  obtain ⟨health, hmapped⟩ := exists_appendMapped_eq (p := counted) hname hstate now hids
  have hingest : p.ingestEvent target now e =
      ({ p with
          events := p.events ++ [sent]
          targets := p.targets.insert target { state with queue }
          health := health.setEventDepth (p.events ++ [sent]).length },
        .ok record?.toList.length) := by
    rw [ingestEvent, if_neg (by simp [hconfigured])]
    dsimp only
    rw [hmapped]
    rfl
  refine ⟨state, sent, record?, queue, _, hstate, hingest, p.sentOnAs_interpret target e,
    fun r hr => p.leadsTo_interpret target e hr, p.lifecycle_interpret target e, rfl, ?_, ?_⟩
  · intro id hother
    cases hr : record? with
    | none => simp only [queue, hr, Option.elim_none]
    | some r =>
      have hne : id ≠ r.targetId := Ne.symm (hother r hr)
      simp only [queue, hr, Option.elim_some, Queue.append]
      rw [Dict.get?_insert, if_neg hne]
  · intro other hother
    rw [hingest, Dict.get?_insert, if_neg hother]

/-- A push that lists one type of events. -/
def listingCalls : List Call :=
  [.applyConfig "site" { eventTypes := ["compute.instance.create.start"] }]

/-- A machine without a name is created; its tenant is told as a list. -/
def namelessCreation : Event :=
  { targetSystem := "elsewhere"
    eventType := "compute.instance.create.start"
    timestamp := .notANumber
    traits := .ofList
      [("display_name", .null), ("instance_id", .string "vm"), ("tenant_id", .array [.null])] }

/-- The event is sent on from the site with the component of the machine and some summary. The
machine is to be created with its id and its tenant, and without a title. -/
theorem nameless_creation_mapped :
    let p := (fresh {}).after listingCalls
    let outcome := p.ingestEvent "site" (.ofSeconds 20000) namelessCreation
    outcome.2 = .ok 1 ∧ ∃ sent r, outcome.1.events = [sent] ∧ sent.targetSystem = "site" ∧
      sent.component = "server-vm" ∧ sent.summary ≠ "" ∧
      (outcome.1.stateOf "site").queue.held.get? "server-vm" = some ⟨.ofSeconds 20000, r⟩ ∧
      r.lifecycle = .create ∧ r.fields.get? "serverId" = some (.string "vm") ∧
      r.fields.get? "set_tenant" = some (.array [.null]) ∧ r.fields.get? "title" = none := by
  intro p outcome
  have hp : p.Reachable := (Reachable.fresh {}).after listingCalls
  have hconfigured : p.hasTarget "site" = true := by decide
  obtain ⟨state, sent, record?, queue, health, hstate, houtcome, hsent, hrecord, hlifecycle,
    hqueue, -, -⟩ :=
    event_sent_on_and_mapped hp hconfigured (.ofSeconds 20000) namelessCreation
  have hcreate : record?.map (·.lifecycle) = some .create := hlifecycle.trans (by decide)
  obtain ⟨r, rfl, hr⟩ := Option.map_eq_some_iff.mp hcreate
  have hleads := hrecord r rfl
  have hkeeps : r.deletes = false := by
    rw [Record.deletes, hr]
    rfl
  obtain ⟨text, htext, hcomponent⟩ :=
    hsent.tied ⟨by decide, by decide, .string "vm", rfl, by simp [Json.IsScalar]⟩
  obtain rfl : "vm" = text := Option.some.inj htext
  have houtcome : outcome = _ := houtcome
  have hwaits : state.queue.held.get? "server-vm" = none := by
    have hempty : (p.stateOf "site").queue.held.get? "server-vm" = none := by decide
    rwa [stateOf_of_get? hstate] at hempty
  have hqueue : queue.held.get? "server-vm" = some ⟨.ofSeconds 20000, r⟩ := by
    have hid : r.targetId = "server-vm" := hleads.targetId.trans hcomponent
    rw [hqueue, Option.elim_some, Queue.append, hid, Dict.get?_insert, if_pos rfl, hwaits]
    rfl
  have htitle : r.fields.get? "title" = none := by
    rw [Option.eq_none_iff_forall_ne_some]
    intro value hvalue
    obtain ⟨entry, hentry, hname, hget, hne⟩ := (hleads.fields hkeeps "title" value).mp hvalue
    have honly : ∀ entry ∈ InstanceEvents.traitFields, "title" ∈ entry.2 →
        entry.1 = "display_name" := by decide
    rw [honly entry hentry hname] at hget
    obtain rfl : .null = value := Option.some.inj hget
    exact hne rfl
  rw [houtcome]
  refine ⟨rfl, sent, r, ?_, ?_, hcomponent, hsent.summary_ne, ?_, hr, ?_, ?_, htitle⟩
  · rw [show p.events = [] by decide, List.nil_append]
  · rw [hsent.others]
  · rw [stateOf_of_get? ((Dict.get?_insert ..).trans (if_pos rfl))]
    exact hqueue
  · exact (hleads.fields hkeeps "serverId" _).mpr
      ⟨("instance_id", ["resourceId", "serverId"]), by decide, by decide, rfl, by simp⟩
  · exact (hleads.fields hkeeps "set_tenant" _).mpr
      ⟨("tenant_id", ["set_tenant"]), by decide, by decide, rfl, by simp⟩

end Pipeline

end CloudCollector
