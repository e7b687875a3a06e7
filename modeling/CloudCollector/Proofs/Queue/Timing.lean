import CloudCollector.Proofs.Queue.Coalescing
import CloudCollector.Proofs.Queue.Retirement

/-!
# When an entry leaves

An entry waits from the arrival of its first record on. It leaves in the first drain that finds
its id refused, a deletion among what has arrived, or its window over; the window is the one in
force at that drain, and it always begins with the first arrival. Until then drains leave the
entry as it is. So it matters when the first record arrived and which bits the lifecycles have,
but neither how many records follow nor what happens to other entities.
-/

namespace CloudCollector

/-- The end of a window is a representable time that has come if and only if the end, counted
without bounds, has come. -/
theorem Instant.exists_add?_le_iff {start now : Instant} {window : Span} :
    (∃ due, start.add? window = some due ∧ due ≤ now) ↔
      start.nanos + window.nanos ≤ now.nanos := by
  constructor
  · rintro ⟨due, hdue, hle⟩
    have hnanos := add?_eq_some_iff.mp hdue
    have hcome : due.nanos ≤ now.nanos := hle
    omega
  · intro hcome
    have hlower := start.lower
    have hupper := now.upper
    exact ⟨⟨start.nanos + window.nanos, by omega, by omega⟩, add?_eq_some_iff.mpr rfl, hcome⟩

/-- How long an entry is held back that does not delete. -/
def Tuning.holdTime (tuning : Tuning) (creates : Bool) : Span :=
  if creates then tuning.shortlived else tuning.updateConsolidate

/-- What matters of an entry for when it leaves. -/
def Held.pace (h : Held) : Instant × Lifecycle :=
  (h.firstSeen, h.record.lifecycle)

/-- Entries of one pace agree on whether they create. -/
theorem Held.creates_eq_of_pace_eq {a b : Held} (h : a.pace = b.pace) :
    a.record.creates = b.record.creates :=
  congrArg Lifecycle.creates (Prod.mk.inj h).2

/-- Entries of one pace agree on whether they delete. -/
theorem Held.deletes_eq_of_pace_eq {a b : Held} (h : a.pace = b.pace) :
    a.record.deletes = b.record.deletes :=
  congrArg Lifecycle.deletes (Prod.mk.inj h).2

namespace Queue

/-- An entry is due if it deletes, or if its window has ended at a representable time. -/
theorem isDue_iff {tuning : Tuning} {now : Instant} {h : Held} :
    isDue tuning now h = true ↔ h.record.deletes = true ∨
      ∃ due, h.firstSeen.add? (tuning.holdTime h.record.creates) = some due ∧ due ≤ now := by
  cases hdeletes : h.record.deletes with
  | true => simp [isDue_of_deletes hdeletes]
  | false =>
    have hrelease : releaseTime tuning now h =
        h.firstSeen.add? (tuning.holdTime h.record.creates) := by
      rw [releaseTime, hdeletes, if_neg Bool.false_ne_true, Tuning.holdTime]
      split <;> rfl
    rw [isDue, hrelease, Option.any_eq_true]
    simp

/-- Entries of the same pace are due at the same times. -/
theorem isDue_eq_of_pace_eq {a b : Held} (h : a.pace = b.pace) (tuning : Tuning) (now : Instant) :
    isDue tuning now a = isDue tuning now b := by
  have hseen : a.firstSeen = b.firstSeen := (Prod.mk.inj h).1
  rw [Bool.eq_iff_iff, isDue_iff, isDue_iff, Held.creates_eq_of_pace_eq h,
    Held.deletes_eq_of_pace_eq h, hseen]

/-- A drain leaves alone what is neither refused nor due: short-lived entries are due anyway. -/
theorem spares_iff {q : Queue} {now : Instant} {id : String} {h : Held} :
    q.spares now id h = true ↔ q.refuses now id = false ∧ isDue q.tuning now h = false := by
  have hshort : isDue q.tuning now h = false → h.isShortlived = false := by
    intro hdue
    cases hdeletes : h.record.deletes with
    | true => rw [isDue_of_deletes hdeletes] at hdue; cases hdue
    | false => rw [Held.isShortlived, hdeletes, Bool.and_false]
  simp only [spares, Bool.and_eq_true, Bool.not_eq_true']
  constructor
  · rintro ⟨⟨hrefused, _⟩, hdue⟩
    exact ⟨hrefused, hdue⟩
  · rintro ⟨hrefused, hdue⟩
    exact ⟨⟨hrefused, hshort hdue⟩, hdue⟩

/-- An entry that was opened at a time, and the records that have arrived for it since, call for
leaving in a drain: its id is still refused, one of the records deletes, or the window since the
opening has ended at a representable time. -/
def MustLeave (q : Queue) (now : Instant) (id : String) (opened : Instant)
    (arrived : List Record) : Prop :=
  q.refuses now id = true ∨ arrived.any (·.deletes) = true ∨
    ∃ due, opened.add? (q.tuning.holdTime (arrived.any (·.creates))) = some due ∧ due ≤ now

instance (q : Queue) (now : Instant) (id : String) (opened : Instant) (arrived : List Record) :
    Decidable (q.MustLeave now id opened arrived) :=
  decidable_of_iff (q.refuses now id = true ∨ arrived.any (·.deletes) = true ∨
      opened.nanos + (q.tuning.holdTime (arrived.any (·.creates))).nanos ≤ now.nanos)
    (by rw [MustLeave, Instant.exists_add?_le_iff])

/-- A drain spares an entry exactly if what has arrived for it does not call for leaving. -/
theorem spares_iff_not_mustLeave {q : Queue} {now : Instant} {id : String} {h : Held}
    {arrived : List Record} (hcoalesces : h.record.Coalesces arrived) :
    q.spares now id h = true ↔ ¬q.MustLeave now id h.firstSeen arrived := by
  rw [spares_iff, MustLeave, ← hcoalesces.creates_eq, ← hcoalesces.deletes_eq, ← isDue_iff,
    not_or, Bool.not_eq_true, Bool.not_eq_true]

/-- The entry of an id waits: it has the time of its opening, and stands for what has arrived. -/
def Waits (q : Queue) (id : String) (opened : Instant) (arrived : List Record) (h : Held) : Prop :=
  q.held.get? id = some h ∧ h.firstSeen = opened ∧ h.record.Coalesces arrived

section Waits

variable {q : Queue} {id : String} {opened : Instant} {arrived : List Record} {h : Held}
  (hwaits : q.Waits id opened arrived h)

include hwaits

/-- A drain removes an entry that must leave. -/
theorem Waits.get?_held_drain_of_mustLeave {now : Instant}
    (hmust : q.MustLeave now id opened arrived) : (q.drain now).1.held.get? id = none := by
  obtain ⟨hheld, rfl, hcoalesces⟩ := hwaits
  have hspares : ¬q.spares now id h = true :=
    fun hspares => (spares_iff_not_mustLeave hcoalesces).mp hspares hmust
  rw [get?_held_drain, hheld, Option.filter_some, if_neg hspares]

/-- A drain leaves any other entry as it is. -/
theorem Waits.drain {now : Instant} (hmust : ¬q.MustLeave now id opened arrived) :
    (q.drain now).1.Waits id opened arrived h := by
  obtain ⟨hheld, rfl, hcoalesces⟩ := hwaits
  have hspares : q.spares now id h = true := (spares_iff_not_mustLeave hcoalesces).mpr hmust
  refine ⟨?_, rfl, hcoalesces⟩
  rw [get?_held_drain, hheld, Option.filter_some, if_pos hspares]

/-- A record of the entity is added to the entry, which keeps its time. -/
theorem Waits.append {r : Record} (hid : r.targetId = id) (now : Instant) :
    (q.append now r).Waits id opened (arrived ++ [r]) (arrive now r (some h)) := by
  obtain ⟨hheld, rfl, hcoalesces⟩ := hwaits
  refine ⟨?_, rfl, hcoalesces.merge r⟩
  rw [get?_held_append, if_pos hid.symm, hheld]

/-- Every call leaves the entry waiting, except for a reset and a drain that finds that it must
leave. -/
theorem Waits.perform {call : Call} (hreset : call ≠ .reset)
    (hstays : ∀ now ∈ call.drainTime?, ¬q.MustLeave now id opened arrived) :
    ∃ h', (q.perform call).Waits id opened (arrived ++ appendedTo id [call]) h' := by
  cases call with
  | append now r =>
    by_cases hid : r.targetId = id
    · subst hid
      rw [appendedTo_singleton_append]
      exact ⟨_, hwaits.append rfl now⟩
    · rw [appendedTo_singleton_eq_nil fun s hs => Option.some.inj hs ▸ hid, List.append_nil]
      refine ⟨h, ?_, hwaits.2⟩
      rw [Queue.perform, get?_held_append, if_neg (Ne.symm hid)]
      exact hwaits.1
  | setTuning tuning =>
    rw [appendedTo_singleton_eq_nil (fun r hr => by cases hr), List.append_nil]
    exact ⟨h, hwaits⟩
  | drain now =>
    rw [appendedTo_singleton_eq_nil (fun r hr => by cases hr), List.append_nil]
    exact ⟨h, hwaits.drain (hstays now rfl)⟩
  | reset => exact absurd rfl hreset

end Waits

/-- As long as no drain finds that it must leave, an entry waits. -/
theorem Waits.after {q : Queue} {id : String} {opened : Instant} {arrived : List Record} {h : Held}
    (hwaits : q.Waits id opened arrived h) {calls : List Call} (hreset : Call.reset ∉ calls)
    (hearlier : EachDrain calls fun earlier now =>
      ¬(q.after earlier).MustLeave now id opened (arrived ++ appendedTo id earlier)) :
    ∃ h', (q.after calls).Waits id opened (arrived ++ appendedTo id calls) h' := by
  induction calls using List.reverseRecOn with
  | nil => exact ⟨h, (List.append_nil arrived).symm ▸ hwaits⟩
  | append_singleton calls call ih =>
    obtain ⟨hbefore, hlast⟩ := eachDrain_concat_iff.mp hearlier
    rw [List.mem_append, List.mem_singleton, not_or] at hreset
    obtain ⟨h', hwaits'⟩ := ih hreset.1 hbefore
    rw [after_concat, appendedTo_append, ← List.append_assoc]
    exact hwaits'.perform (Ne.symm hreset.2) hlast

/-- What waits has the same pace if nothing does, or entries of the same pace do. -/
theorem map_pace_eq_cases {a b : Option Held} (h : a.map (·.pace) = b.map (·.pace)) :
    a = none ∧ b = none ∨ ∃ x y, a = some x ∧ b = some y ∧ x.pace = y.pace := by
  cases a with
  | none =>
    rw [Option.map_none, eq_comm, Option.map_eq_none_iff] at h
    exact .inl ⟨rfl, h⟩
  | some x =>
    rw [Option.map_some, eq_comm, Option.map_eq_some_iff] at h
    obtain ⟨y, hy, hpace⟩ := h
    exact .inr ⟨x, y, rfl, hy, hpace.symm⟩

/-- Entries of the same pace, or none, have the same pace after a record arrives. -/
theorem pace_arrive_eq {a b : Option Held} (h : a.map (·.pace) = b.map (·.pace)) (now : Instant)
    (r : Record) : (arrive now r a).pace = (arrive now r b).pace := by
  rcases map_pace_eq_cases h with ⟨rfl, rfl⟩ | ⟨x, y, rfl, rfl, hpace⟩
  · rfl
  · obtain ⟨hseen, hlifecycle⟩ := Prod.mk.inj hpace
    simp only [arrive, Held.pace, Record.merge, hseen, hlifecycle]

/-- Two queues are in step for an entity if they have the same windows, refuse its id since the
same time if at all, and hold entries of it, if any, that arrived at the same time and have the
same lifecycle. -/
structure InStep (id : String) (q p : Queue) : Prop where
  tuning : q.tuning = p.tuning
  blacklist : q.blacklist.get? id = p.blacklist.get? id
  held : (q.held.get? id).map (·.pace) = (p.held.get? id).map (·.pace)

namespace InStep

variable {id : String} {q p : Queue}

/-- Queues in step with a third one over an entity are in step. -/
theorem trans {o : Queue} (h : InStep id q p) (h' : InStep id p o) : InStep id q o :=
  ⟨h.tuning.trans h'.tuning, h.blacklist.trans h'.blacklist, h.held.trans h'.held⟩

/-- Queues in step agree on whether an entry waits. -/
theorem contains_eq (h : InStep id q p) : q.held.contains id = p.held.contains id := by
  have hsome := congrArg Option.isSome h.held
  rwa [Option.isSome_map, Option.isSome_map] at hsome

/-- Queues in step refuse the id at the same times. -/
theorem refuses_eq (h : InStep id q p) (now : Instant) : q.refuses now id = p.refuses now id := by
  simp only [refuses, Dict.contains_eq_isSome, unexpired, Dict.get?_filter, h.blacklist, h.tuning]

/-- A drain spares an entry in one queue if it spares one of the same pace in the other. -/
theorem spares_eq (h : InStep id q p) {a b : Held} (hpace : a.pace = b.pace) (now : Instant) :
    q.spares now id a = p.spares now id b := by
  rw [Bool.eq_iff_iff, spares_iff, spares_iff, h.refuses_eq, h.tuning, isDue_eq_of_pace_eq hpace]

/-- Queues in step retire the id in the same drains. -/
theorem retires_iff (h : InStep id q p) (hq : q.Keyed) (hp : p.Keyed) (now : Instant) :
    q.Retires now id ↔ p.Retires now id := by
  rw [hq.retires_iff, hp.retires_iff, h.refuses_eq]
  rcases map_pace_eq_cases h.held with ⟨ha, hb⟩ | ⟨a, b, ha, hb, hpace⟩
  · simp [ha, hb]
  · simp [ha, hb, Held.creates_eq_of_pace_eq hpace, Held.deletes_eq_of_pace_eq hpace]

/-- Queues that are in step stay in step. -/
theorem perform (h : InStep id q p) (hq : q.Keyed) (hp : p.Keyed) (call : Call) :
    InStep id (q.perform call) (p.perform call) := by
  cases call with
  | append now r =>
    refine ⟨h.tuning, h.blacklist, ?_⟩
    rw [Queue.perform, Queue.perform, get?_held_append, get?_held_append]
    split
    · rw [Option.map_some, Option.map_some, pace_arrive_eq h.held]
    · exact h.held
  | setTuning tuning => exact ⟨rfl, h.blacklist, h.held⟩
  | drain now =>
    refine ⟨h.tuning, ?_, ?_⟩
    · by_cases hretires : q.Retires now id
      · have hretires' := (h.retires_iff hq hp now).mp hretires
        rw [Queue.perform, Queue.perform, hq.get?_blacklist_of_retires hretires,
          hp.get?_blacklist_of_retires hretires']
      · have hretires' := fun hp' => hretires ((h.retires_iff hq hp now).mpr hp')
        rw [Queue.perform, Queue.perform, hq.get?_blacklist_of_not_retires hretires,
          hp.get?_blacklist_of_not_retires hretires', unexpired, unexpired, Dict.get?_filter,
          Dict.get?_filter, h.blacklist, h.tuning]
    · rw [Queue.perform, Queue.perform, get?_held_drain, get?_held_drain]
      rcases map_pace_eq_cases h.held with ⟨ha, hb⟩ | ⟨a, b, ha, hb, hpace⟩
      · rw [ha, hb]
        rfl
      · rw [ha, hb, Option.filter_some, Option.filter_some, h.spares_eq hpace]
        split
        · rw [Option.map_some, Option.map_some, hpace]
        · rfl
  | reset => exact ⟨h.tuning, rfl, rfl⟩

/-- Queues that are in step stay in step along every run. -/
theorem after (h : InStep id q p) (hq : q.Keyed) (hp : p.Keyed) (calls : List Call) :
    InStep id (q.after calls) (p.after calls) := by
  induction calls generalizing q p with
  | nil => exact h
  | cons call rest ih => exact ih (h.perform hq hp call) (hq.perform call) (hp.perform call)

end InStep

/-- A call makes no difference to when an entry leaves for which records have arrived: it appends
a record of another entity, or one without a lifecycle bit that the entry does not have. -/
def Call.IsIncidental (id : String) (arrived : List Record) (call : Call) : Prop :=
  ∃ now r, call = .append now r ∧ (r.targetId = id →
    (r.creates = true → arrived.any (·.creates) = true) ∧
      (r.deletes = true → arrived.any (·.deletes) = true))

/-- A record of another entity, or one without a new lifecycle bit, keeps a queue in step with
what it was. -/
theorem inStep_append {q : Queue} {id : String} {h : Held} {r : Record} (now : Instant)
    (hheld : q.held.get? id = some h)
    (hbits : r.targetId = id → (r.creates = true → h.record.creates = true) ∧
      (r.deletes = true → h.record.deletes = true)) : InStep id (q.append now r) q := by
  refine ⟨rfl, rfl, ?_⟩
  rw [get?_held_append, hheld]
  split
  · next hid =>
    obtain ⟨hcreates, hdeletes⟩ := hbits hid.symm
    have hlifecycle : (h.record.merge r).lifecycle = h.record.lifecycle := by
      apply Lifecycle.ext
      · rw [← Record.creates, Record.creates_merge, Record.creates]
        cases hr : r.creates with
        | false => rw [Bool.or_false]
        | true => rw [← Record.creates, hcreates hr, Bool.true_or]
      · rw [← Record.deletes, Record.deletes_merge, Record.deletes]
        cases hr : r.deletes with
        | false => rw [Bool.or_false]
        | true => rw [← Record.deletes, hdeletes hr, Bool.true_or]
    rw [Option.map_some, Option.map_some, arrive, Held.pace, hlifecycle]
    rfl
  · rfl

/-- Incidental calls keep a queue in step with what it was. -/
theorem Waits.inStep_after {q : Queue} {id : String} {opened : Instant} {arrived : List Record}
    {h : Held} (hwaits : q.Waits id opened arrived h) {extra : List Call}
    (hextra : ∀ call ∈ extra, call.IsIncidental id arrived) : InStep id (q.after extra) q := by
  induction extra using List.reverseRecOn with
  | nil => exact ⟨rfl, rfl, rfl⟩
  | append_singleton extra call ih =>
    have hbefore := ih fun c hc => hextra c (List.mem_append_left _ hc)
    obtain ⟨now, r, rfl, hbits⟩ := hextra call (List.mem_append_right _ List.mem_cons_self)
    obtain ⟨hheld, -, hcoalesces⟩ := hwaits
    have hpace := hbefore.held
    rw [hheld, Option.map_some, Option.map_eq_some_iff] at hpace
    obtain ⟨h', hheld', hpace⟩ := hpace
    rw [after_concat]
    refine (inStep_append now hheld' fun hid => ?_).trans hbefore
    rw [Held.creates_eq_of_pace_eq hpace, Held.deletes_eq_of_pace_eq hpace, hcoalesces.creates_eq,
      hcoalesces.deletes_eq]
    exact hbits hid

/-- **Never early, never starved.** An entry is opened where nothing waits for its entity. As long
as no drain finds that it must leave, it waits, with the time of its opening and what all records
of the entity since then come to. The next drain removes it if it must leave, and else leaves it
as it is. Records of other entities, and any number of records without a new lifecycle bit, do not
make it leave earlier or later. -/
theorem leaves_at_first_drain_that_must {q : Queue} (hq : q.Reachable) {opened : Instant}
    {r : Record} (hnone : q.held.get? r.targetId = none) {calls : List Call}
    (hreset : Call.reset ∉ calls)
    (hearlier : EachDrain calls fun earlier now =>
      ¬((q.append opened r).after earlier).MustLeave now r.targetId opened
        (r :: appendedTo r.targetId earlier)) :
    ∃ h, ((q.append opened r).after calls).Waits r.targetId opened
        (r :: appendedTo r.targetId calls) h ∧
      (∀ now,
        (((q.append opened r).after calls).MustLeave now r.targetId opened
            (r :: appendedTo r.targetId calls) →
          (((q.append opened r).after calls).drain now).1.held.get? r.targetId = none) ∧
        (¬((q.append opened r).after calls).MustLeave now r.targetId opened
            (r :: appendedTo r.targetId calls) →
          (((q.append opened r).after calls).drain now).1.held.get? r.targetId = some h)) ∧
      ∀ extra rest,
        (∀ call ∈ extra, call.IsIncidental r.targetId (r :: appendedTo r.targetId calls)) →
        ((q.append opened r).after (calls ++ extra ++ rest)).held.contains r.targetId =
          ((q.append opened r).after (calls ++ rest)).held.contains r.targetId := by
  have hopen : (q.append opened r).Waits r.targetId opened [r] ⟨opened, r⟩ := by
    refine ⟨?_, rfl, r.coalesces_singleton⟩
    rw [get?_held_append, if_pos rfl, hnone]
    rfl
  obtain ⟨h, hwaits⟩ := hopen.after hreset hearlier
  refine ⟨h, hwaits, ?_, ?_⟩
  · intro now
    exact ⟨hwaits.get?_held_drain_of_mustLeave, fun hmust => (hwaits.drain hmust).1⟩
  · intro extra rest hextra
    have hkeyed := (hq.keyed.perform (.append opened r)).after calls
    have hstep := (hwaits.inStep_after hextra).after (hkeyed.after extra) hkeyed rest
    rw [List.append_assoc, after_append, after_append, after_append]
    exact hstep.contains_eq

/-- A disk waits. -/
def diskCalls : List Call :=
  [.append (.ofSeconds 6990) { targetId := "disk", lifecycle := .create }]

/-- A machine is described. -/
def machine : Record :=
  { targetId := "vm", fields := .ofList [("name", .string "web")] }

/-- The machine is created, the window of creations is made longer, and the disk is deleted. -/
def machineCalls : List Call :=
  [.drain (.ofSeconds 7039),
    .append (.ofSeconds 7039) { targetId := "vm", lifecycle := .create },
    .setTuning { shortlived := .ofSeconds 65 },
    .drain (.ofSeconds 7064),
    .append (.ofSeconds 7064) { targetId := "disk", lifecycle := .delete }]

/-- The entry of the machine, opened at 7000 s, stays for 65 s and leaves then. -/
theorem machine_leaves_after_window :
    let q := ((fresh {}).after diskCalls).append (.ofSeconds 7000) machine
    ∃ h, h.firstSeen = .ofSeconds 7000 ∧
      ((q.after machineCalls).drain (.ofSeconds 7064)).1.held.get? "vm" = some h ∧
      ((q.after machineCalls).drain (.ofSeconds 7065)).1.held.get? "vm" = none := by
  intro q
  have hearlier : EachDrain machineCalls fun earlier now =>
      ¬(q.after earlier).MustLeave now machine.targetId (.ofSeconds 7000)
        (machine :: appendedTo machine.targetId earlier) := by decide
  obtain ⟨h, hwaits, hnext, -⟩ :=
    leaves_at_first_drain_that_must ⟨{}, diskCalls, rfl⟩ (by decide) (by decide) hearlier
  exact ⟨h, hwaits.2.1, (hnext (.ofSeconds 7064)).2 (by decide),
    (hnext (.ofSeconds 7065)).1 (by decide)⟩

end Queue

end CloudCollector
