import CloudCollector.Proofs.Queue.Timing

/-!
# Entities do not disturb each other

The queue treats each entity as if it were alone. A run that is cut down to the records of one
entity keeps its clock readings, tunings, resets and drains, and does to that entity what the whole
run does. The batches of the two runs have nothing else in common: their sizes differ, and so do
the references that are split off, which is why released records are compared whole.
-/

namespace CloudCollector.Queue

/-- Whether a call matters to an entity: it appends no record of another one. -/
def Call.concerns (id : String) (call : Call) : Bool :=
  call.record?.all fun r => r.targetId = id

/-- A run without the records of other entities. -/
def cutDownTo (id : String) (calls : List Call) : List Call :=
  calls.filter (Call.concerns id)

/-- Two queues agree on an entity if they have the same windows, hold the same entry of it if any,
and refuse its id since the same time if at all. -/
structure AgreeOn (id : String) (q p : Queue) : Prop where
  tuning : q.tuning = p.tuning
  held : q.held.get? id = p.held.get? id
  blacklist : q.blacklist.get? id = p.blacklist.get? id

namespace AgreeOn

variable {id : String} {q p : Queue}

/-- A queue agrees with itself on every entity. -/
theorem refl (id : String) (q : Queue) : AgreeOn id q q :=
  ⟨rfl, rfl, rfl⟩

/-- Agreement on an entity passes on from queue to queue. -/
theorem trans {o : Queue} (h : AgreeOn id q p) (h' : AgreeOn id p o) : AgreeOn id q o :=
  ⟨h.tuning.trans h'.tuning, h.held.trans h'.held, h.blacklist.trans h'.blacklist⟩

/-- Queues that agree on an entity are in step for it. -/
theorem inStep (h : AgreeOn id q p) : InStep id q p :=
  ⟨h.tuning, h.blacklist, congrArg (Option.map Held.pace) h.held⟩

/-- Queues that agree on an entity agree on whether its id is blacklisted. -/
theorem isBlacklisted_eq (h : AgreeOn id q p) : q.isBlacklisted id = p.isBlacklisted id := by
  rw [isBlacklisted, isBlacklisted, Dict.contains_eq_isSome, Dict.contains_eq_isSome, h.blacklist]

/-- Queues that agree on an entity release its entry in the same drains. -/
theorem get?_due_eq (h : AgreeOn id q p) (now : Instant) :
    (q.due now).get? id = (p.due now).get? id := by
  rw [get?_due, get?_due, h.held, h.tuning, h.inStep.refuses_eq]

/-- Queues that agree on an entity agree on it after every call. -/
theorem perform (h : AgreeOn id q p) (hq : q.Keyed) (hp : p.Keyed) (call : Call) :
    AgreeOn id (q.perform call) (p.perform call) := by
  have hstep := h.inStep.perform hq hp call
  refine ⟨hstep.tuning, ?_, hstep.blacklist⟩
  cases call with
  | append now r => rw [Queue.perform, Queue.perform, get?_held_append, get?_held_append, h.held]
  | setTuning tuning => exact h.held
  | drain now =>
    have hspares : q.spares now id = p.spares now id :=
      funext fun entry => h.inStep.spares_eq rfl now
    rw [Queue.perform, Queue.perform, get?_held_drain, get?_held_drain, h.held, hspares]
  | reset => rfl

/-- Whatever the arrangements of their releases, queues that agree on an entity release the same
creation of it, references put back, and the same other record. -/
theorem released_eq (h : AgreeOn id q p) (hq : q.Keyed) (hp : p.Keyed) {now : Instant}
    {out out' : Release} (hout : out.Rearranges (q.drain now).2.1)
    (hout' : out'.Rearranges (p.drain now).2.1) :
    out.createdOf id = out'.createdOf id ∧ out.updatedOf id = out'.updatedOf id := by
  constructor
  · rw [hq.createdOf_drain hout, hp.createdOf_drain hout', h.get?_due_eq]
  · rw [hq.updatedOf_drain hout, hp.updatedOf_drain hout', h.get?_due_eq]

end AgreeOn

/-- A record of another entity changes nothing for an entity. -/
theorem agreeOn_perform_of_not_concerns {id : String} {q : Queue} {call : Call}
    (h : call.concerns id = false) : AgreeOn id (q.perform call) q := by
  cases call with
  | append now r =>
    have hid : ¬r.targetId = id := of_decide_eq_false h
    refine ⟨rfl, ?_, rfl⟩
    rw [perform, get?_held_append, if_neg (Ne.symm hid)]
  | setTuning tuning => cases h
  | drain now => cases h
  | reset => cases h

/-- A run and the run cut down to an entity agree on it. -/
theorem agreeOn_after_cutDownTo (tuning : Tuning) (id : String) (calls : List Call) :
    AgreeOn id ((fresh tuning).after calls) ((fresh tuning).after (cutDownTo id calls)) := by
  induction calls using List.reverseRecOn with
  | nil => exact .refl id _
  | append_singleton calls call ih =>
    rw [after_concat, cutDownTo, List.filter_append]
    cases hconcerns : call.concerns id with
    | false =>
      rw [List.filter_cons_of_neg (by simp [hconcerns]), List.filter_nil, List.append_nil]
      exact (agreeOn_perform_of_not_concerns hconcerns).trans ih
    | true =>
      rw [List.filter_cons_of_pos hconcerns, List.filter_nil, after_concat]
      exact ih.perform ((keyed_fresh tuning).after calls) ((keyed_fresh tuning).after _) call

/-- **Entities are isolated.** After any run of a queue, and after that run without the records of
other entities, the same entry of the entity waits, with the same time and record, or none does;
the id is blacklisted in both or in neither; and a drain releases the same of it in both, in the
same group, whatever the arrangements of the two releases, once the references of a link record are
put back. -/
theorem entity_isolated (tuning : Tuning) (id : String) (calls : List Call) :
    ((fresh tuning).after calls).held.get? id =
        ((fresh tuning).after (cutDownTo id calls)).held.get? id ∧
      ((fresh tuning).after calls).isBlacklisted id =
        ((fresh tuning).after (cutDownTo id calls)).isBlacklisted id ∧
      ∀ now (out out' : Release),
        out.Rearranges (((fresh tuning).after calls).drain now).2.1 →
        out'.Rearranges (((fresh tuning).after (cutDownTo id calls)).drain now).2.1 →
        out.createdOf id = out'.createdOf id ∧ out.updatedOf id = out'.updatedOf id := by
  have hagree := agreeOn_after_cutDownTo tuning id calls
  refine ⟨hagree.held, hagree.isBlacklisted_eq, fun now out out' hout hout' => ?_⟩
  exact hagree.released_eq ((keyed_fresh tuning).after calls) ((keyed_fresh tuning).after _)
    hout hout'

/-- Two volumes that refer to each other are created, and a third one that was deleted before is
reported again. -/
def volumeCalls : List Call :=
  [.append (.ofSeconds 12000) { targetId := "old", lifecycle := .delete },
    .drain (.ofSeconds 12000),
    .append (.ofSeconds 12001)
      { targetId := "first", lifecycle := .create,
        fields := .ofList [("set_copy", .string "second"), ("size", .string "1")] },
    .append (.ofSeconds 12001)
      { targetId := "second", lifecycle := .create,
        fields := .ofList [("set_copy", .string "first")] },
    .append (.ofSeconds 12002) { targetId := "old" },
    .setTuning { shortlived := .ofSeconds 28 }]

/-- Alone, the first volume is released in one piece, and among the others in two. They are the same
record. -/
theorem volume_isolated :
    let among := (((fresh {}).after volumeCalls).drain (.ofSeconds 12031)).2.1
    let alone := (((fresh {}).after (cutDownTo "first" volumeCalls)).drain (.ofSeconds 12031)).2.1
    among.links.length = 2 ∧ alone.links.length = 0 ∧
      among.createdOf "first" = alone.createdOf "first" ∧ alone.createdOf "first" ≠ [] := by
  intro among alone
  have hisolated := (entity_isolated {} "first" volumeCalls).2.2 (.ofSeconds 12031) among alone
    (.refl among) (.refl alone)
  exact ⟨by decide, by decide, hisolated.1, by decide⟩

end CloudCollector.Queue
