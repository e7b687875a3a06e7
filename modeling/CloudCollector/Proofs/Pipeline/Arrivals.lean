import CloudCollector.Proofs.Pipeline.Reachable
import CloudCollector.Proofs.Pipeline.SightingHistory
import CloudCollector.Proofs.Queue.Coalescing

/-!
# What arrives for a target

To the queue of a target, a run of a pipeline is a run of calls on that queue: pushes tune it,
records and mapped events and discovered children arrive in it, and drains drain it. When the state
of the target is forgotten, the next queue begins empty. So what waits for an entity stands for the
last of what arrived for it, and what a drain released is never part of it again.
-/

namespace CloudCollector

/-! ## Queues -/

namespace Queue

/-- What waits for an entity stands for the last of what arrived. -/
def StandsForLast (waiting : Option Held) (arrived : List Record) : Prop :=
  ∃ parts, parts <:+ arrived ∧ StandsFor waiting parts

/-- Where nothing waits, it stands for none of the arrivals. -/
theorem standsForLast_none (arrived : List Record) : StandsForLast none arrived :=
  ⟨[], List.nil_suffix, rfl⟩

/-- Along a run, what waits for an entity keeps standing for the last of what arrived. -/
theorem StandsForLast.after {q : Queue} {id : String} {arrived : List Record}
    (h : StandsForLast (q.held.get? id) arrived) (calls : List Call) :
    StandsForLast ((q.after calls).held.get? id) (arrived ++ appendedTo id calls) := by
  -- an entry that leaves takes along all that arrived for it
  induction calls using List.reverseRecOn with
  | nil => simpa [appendedTo, appended] using h
  | append_singleton calls call ih =>
    rw [after_concat]
    by_cases hdeparts : (q.after calls).Departs id call
    · have hgone := hdeparts.2
      rw [Dict.contains_eq_isSome, Option.isSome_eq_false_iff, Option.isNone_iff_eq_none] at hgone
      rw [hgone]
      exact standsForLast_none _
    · obtain ⟨parts, ⟨earlier, harrived⟩, hstands⟩ := ih
      refine ⟨parts ++ appendedTo id [call], ⟨earlier, ?_⟩, hstands.perform hdeparts⟩
      rw [appendedTo_append, ← List.append_assoc, harrived, List.append_assoc]

end Queue

namespace Pipeline

/-! ## What a call does to a queue -/

/-- What becomes of a record that is appended to the queue of a target. -/
def recordOnQueue (target : String) (now : Instant) : Option Record → List Queue.Call
  | none => []
  | some r =>
    match checkRecord target r with
    | .ok () => [.append now r]
    | .error _ => []

/-- What a call does to the queue of a target, as calls on the queue. -/
def Call.onQueue (p : Pipeline) (target : String) : Call → List Queue.Call
  | .applyConfig name config =>
    if name = target then
      match checkConfig name config with
      | .ok () => [.setTuning config.queue]
      | .error _ => []
    else []
  | .appendRecord name now record => if name = target then recordOnQueue name now record else []
  | .ingestEvent name now e =>
    if name = target ∧ p.hasTarget name = true then recordOnQueue name now (p.interpret name e).2
    else []
  | .drain now => [.drain now]
  | .discover now => (p.discovered now target).map fun found => .append now found.2
  | _ => []

/-- A call that does not concern a target does nothing to its queue. -/
theorem Call.onQueue_of_not_concerns {p : Pipeline} {target : String} {call : Call}
    (h : call.concerns target = false) : call.onQueue p target = [] := by
  obtain ⟨hsweep, hname⟩ := concerns_eq_false_iff.mp h
  cases call with
  | applyConfig name config => exact if_neg fun hcall => hname (congrArg some hcall)
  | appendRecord name now record => exact if_neg fun hcall => hname (congrArg some hcall)
  | ingestEvent name now e => exact if_neg fun hcall => hname (congrArg some hcall.1)
  | drain now => exact absurd rfl hsweep
  | discover now => exact absurd rfl hsweep
  | _ => rfl

section Operations

variable {p : Pipeline} {target : String}

/-- A push tunes the queue of its target, if it is accepted. -/
theorem queue_applyConfig (config : TargetConfig) :
    ((p.applyConfig target config).1.stateOf target).queue =
      (p.stateOf target).queue.after ((Call.applyConfig target config).onQueue p target) := by
  rw [Call.onQueue, if_pos rfl]
  unfold applyConfig
  cases hcheck : checkConfig target config with
  | error cause => rfl
  | ok _ =>
    have hstate := get?_targets_retune (p.register target config) target target config.queue
    rw [if_pos rfl] at hstate
    refine (congrArg TargetState.queue (stateOf_of_get? hstate)).trans ?_
    cases hold : p.targets.get? target with
    | none =>
      have hregistered : (p.register target config).targets.get? target = none := hold
      rw [hregistered, stateOf, Dict.getD, hold]
      rfl
    | some state =>
      have hregistered : (p.register target config).targets.get? target = some state := hold
      rw [hregistered, stateOf_of_get? hold]
      rfl

/-- A record joins the queue of its target, if it is accepted. -/
theorem queue_appendRecord (now : Instant) (record : Option Record) :
    ((p.appendRecord target now record).1.stateOf target).queue =
      (p.stateOf target).queue.after (recordOnQueue target now record) := by
  cases record with
  | none => rfl
  | some r =>
    simp only [appendRecord, recordOnQueue]
    cases checkRecord target r with
    | error cause => rfl
    | ok _ =>
      have hstate := (get?_targets_enqueue p target target now r).trans (if_pos rfl)
      rw [stateOf_of_get? hstate]
      rfl

/-- A note does nothing to the queue of its target. -/
theorem queue_note (id : String) (now : Instant) :
    ((p.note target id now).1.stateOf target).queue = (p.stateOf target).queue := by
  by_cases hname : target = ""
  · rw [note, if_pos hname]
  · have hstate := (get?_targets_note p target target id now).trans (if_pos ⟨rfl, hname⟩)
    rw [stateOf_of_get? hstate]

/-- Notes do nothing to the queue of their target. -/
theorem queue_noteAll (now : Instant) (ids : List String) :
    ((noteAll target now ids p).1.stateOf target).queue = (p.stateOf target).queue := by
  induction ids generalizing p with
  | nil => rfl
  | cons id ids ih =>
    have hnote : ((p.note target id now).1.stateOf target).queue = (p.stateOf target).queue :=
      queue_note id now
    unfold noteAll
    split
    · next q heq =>
      rw [heq] at hnote
      exact (ih (p := q)).trans hnote
    · next heq =>
      rw [heq] at hnote
      exact hnote

/-- An event adds the record that it is mapped to, if it is mapped to one. -/
theorem queue_ingestEvent (now : Instant) (e : Event) :
    ((p.ingestEvent target now e).1.stateOf target).queue =
      (p.stateOf target).queue.after ((Call.ingestEvent target now e).onQueue p target) := by
  rw [Call.onQueue]
  cases hconfigured : p.hasTarget target with
  | false =>
    rw [if_neg (by simp), ingestEvent_of_not_hasTarget hconfigured, Queue.after_nil]
  | true =>
    rw [(sameAt_ingestEvent_appendRecord hconfigured target now e).stateOf_eq, queue_appendRecord,
      if_pos ⟨rfl, rfl⟩]

/-- If a call leaves a target with a state, it does to the queue what it does to it as a run. -/
theorem queue_perform_of_get? {call : Call} {state : TargetState}
    (h : (p.perform call).targets.get? target = some state) :
    state.queue = (p.stateOf target).queue.after (call.onQueue p target) := by
  have hstate : (p.perform call).stateOf target = state := stateOf_of_get? h
  by_cases hname : call.target? = some target
  · rw [← hstate]
    cases call with
    | applyConfig name config =>
      cases hname
      exact queue_applyConfig config
    | removeTarget name =>
      cases hname
      rw [show (p.perform (.removeTarget target)).targets.get? target = none from
        (get?_targets_removeTarget p target target).trans (if_pos rfl)] at h
      cases h
    | appendRecord name now record =>
      cases hname
      rw [Call.onQueue, if_pos rfl]
      exact queue_appendRecord now record
    | note name id now =>
      cases hname
      exact queue_note id now
    | ingestSamples name now samples =>
      cases hname
      obtain ⟨ids, hnotes⟩ := exists_sameAt_ingestSamples p target now samples
      exact (congrArg TargetState.queue (hnotes target).stateOf_eq).trans (queue_noteAll now ids)
    | ingestEvent name now e =>
      cases hname
      exact queue_ingestEvent now e
    | _ => cases hname
  by_cases hsweep : call.isSweep = true
  · cases call with
    | drain now =>
      have hkept := h
      rw [perform, step, Prod.map_fst, id, get?_targets_drain, Option.filter_eq_some_iff,
        Option.map_eq_some_iff] at hkept
      obtain ⟨⟨old, hold, rfl⟩, -⟩ := hkept
      rw [stateOf_of_get? hold]
      rfl
    | discover now =>
      have hfound := h
      rw [perform, step, Prod.map_fst, id, get?_targets_discover_eq,
        Option.map_eq_some_iff] at hfound
      obtain ⟨old, hold, rfl⟩ := hfound
      rw [stateOf_of_get? hold, Call.onQueue, Queue.after, List.foldl_map]
      rfl
    | _ => cases hsweep
  · have hcall := Call.concerns_eq_false_iff.mpr ⟨hsweep, hname⟩
    rw [← hstate, (sameAt_perform_of_not_concerns hcall).stateOf_eq,
      Call.onQueue_of_not_concerns hcall, Queue.after_nil]

/-- What waits for an entity after a call is what the call makes of what waited, or nothing if the
state of the target is forgotten. -/
theorem held_perform (p : Pipeline) (target id : String) (call : Call) :
    ((p.perform call).stateOf target).queue.held.get? id = none ∨
      ((p.perform call).stateOf target).queue.held.get? id =
        ((p.stateOf target).queue.after (call.onQueue p target)).held.get? id := by
  cases hstate : (p.perform call).targets.get? target with
  | none =>
    left
    rw [stateOf, Dict.getD, hstate]
    rfl
  | some state =>
    right
    rw [stateOf_of_get? hstate, queue_perform_of_get? hstate]

end Operations

/-! ## Runs -/

/-- The records of an entity that a run appends to the queue of a target. -/
def arrivals (p : Pipeline) (target id : String) : List Call → List Record
  | [] => []
  | call :: rest =>
    Queue.appendedTo id (call.onQueue p target) ++ (p.perform call).arrivals target id rest

/-- What waits for an entity of a target. -/
def waitsFor (p : Pipeline) (target id : String) : Option Held :=
  (p.stateOf target).queue.held.get? id

/-- Along a run, what waits for an entity keeps standing for the last of what arrived. -/
theorem standsForLast_after {p : Pipeline} {target id : String} {arrived : List Record}
    (h : Queue.StandsForLast (p.waitsFor target id) arrived) (calls : List Call) :
    Queue.StandsForLast ((p.after calls).waitsFor target id)
      (arrived ++ p.arrivals target id calls) := by
  induction calls generalizing p arrived with
  | nil => rwa [after_nil, arrivals, List.append_nil]
  | cons call rest ih =>
    rw [after_cons, arrivals, ← List.append_assoc]
    refine ih ?_
    rcases p.held_perform target id call with hgone | hheld
    · rw [waitsFor, hgone]
      exact Queue.standsForLast_none _
    · rw [waitsFor, hheld]
      exact h.after (call.onQueue p target)

/-! ## Batches -/

/-- What a drain releases for a target. -/
def releaseOf (p : Pipeline) (target : String) (now : Instant) : Release :=
  ((p.stateOf target).queue.drain now).2.1

/-- What a drain releases of an entity, the references of a link record put back, comes to the last
of what arrived. -/
def ReleasesLast (p : Pipeline) (now : Instant) (target id : String) (arrived : List Record) :
    Prop :=
  ∃ (whole : Record) (parts : List Record), (p.releaseOf target now).wholesOf id = [whole] ∧
    whole.Coalesces parts ∧ parts <:+ arrived

section Batch

variable {p : Pipeline} {now : Instant} {batch : Batch} {r : Record}
  (hkeyed : (p.stateOf batch.target).queue.Keyed) (hbatch : batch ∈ (p.drain now).2)
  (hr : r ∈ batch.records)

include hbatch in
/-- A batch is what a drain releases for its target. -/
theorem records_of_mem_drain : batch.records = (p.releaseOf batch.target now).ordered := by
  rw [batches_drain, List.mem_flatMap] at hbatch
  obtain ⟨⟨name, state⟩, hentry, hbatch⟩ := hbatch
  rw [Dict.mem_entries_iff] at hentry
  obtain rfl := List.mem_singleton.mp ((state.batches_sublist name now).subset hbatch)
  rw [releaseOf, stateOf_of_get? hentry]

include hkeyed hbatch hr

/-- The entry of an entity with a record in a batch was due. -/
theorem exists_due_of_mem_records :
    ∃ h, ((p.stateOf batch.target).queue.due now).get? r.targetId = some h := by
  rw [records_of_mem_drain hbatch] at hr
  refine (hkeyed.exists_mem_recordsOf_iff (.refl _)).mp ⟨r, ?_⟩
  exact List.mem_filter.mpr ⟨hr, by simp⟩

/-- What a drain handed out is no part of what waits afterwards. -/
theorem standsForLast_drain :
    Queue.StandsForLast ((p.perform (.drain now)).waitsFor batch.target r.targetId) [] := by
  obtain ⟨h, hdue⟩ := exists_due_of_mem_records hkeyed hbatch hr
  have hnone : (p.perform (.drain now)).waitsFor batch.target r.targetId = none := by
    rcases p.held_perform batch.target r.targetId (.drain now) with hgone | hheld
    · exact hgone
    · have hdeparted := (Queue.departs_of_due hdue).2
      rw [Dict.contains_eq_isSome, Option.isSome_eq_false_iff, Option.isNone_iff_eq_none]
        at hdeparted
      exact hheld.trans hdeparted
  rw [hnone]
  exact Queue.standsForLast_none []

/-- A drain releases of an entity what arrived last, if what waited stood for that. -/
theorem releasesLast_of_standsForLast {arrived : List Record}
    (hstands : Queue.StandsForLast (p.waitsFor batch.target r.targetId) arrived) :
    p.ReleasesLast now batch.target r.targetId arrived := by
  obtain ⟨h, hdue⟩ := exists_due_of_mem_records hkeyed hbatch hr
  obtain ⟨parts, hparts, hcoalesces⟩ := hstands
  rw [waitsFor, (Queue.get?_due_eq_some_iff.mp hdue).1] at hcoalesces
  have hwhole : (p.releaseOf batch.target now).wholesOf r.targetId = [h.record] := by
    rw [releaseOf, hkeyed.wholesOf_drain (.refl _), hdue]
    rfl
  exact ⟨h.record, parts, hwhole, hcoalesces, hparts⟩

end Batch

/-- The queues of a reachable pipeline are keyed. -/
theorem Reachable.keyed_stateOf {p : Pipeline} (h : p.Reachable) (target : String) :
    (p.stateOf target).queue.Keyed := by
  obtain ⟨pushed, hconsistent⟩ := h.exists_consistentAt target
  exact hconsistent.filed_stateOf.keyed

end Pipeline

end CloudCollector
