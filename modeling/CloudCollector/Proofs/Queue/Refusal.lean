import CloudCollector.Proofs.Queue.Blacklist
import CloudCollector.Proofs.Queue.Merging

/-!
# Refusal is decided by the next drain

A retired id is refused for a window. Whether a record that arrives within the window is dropped
is not decided by its arrival but by the next drain, which forgets the id first if the window is
over by then. So a record is dropped if a drain comes within the window, and if none does, its
entry waits like any other.
-/

namespace CloudCollector

/-- The time since an earlier instant is at most a window if and only if the window that began
then is not over. -/
theorem Instant.since_le_iff {now earlier : Instant} {window : Span} :
    now.since earlier ≤ window ↔ now.nanos ≤ earlier.nanos + window.nanos := by
  change (now.nanos - earlier.nanos).toNat ≤ window.nanos ↔ _
  omega

namespace Queue

/-- The clock does not step back along the calls. -/
def Chronological (calls : List Call) : Prop :=
  (calls.filterMap Call.time?).Pairwise (· ≤ ·)

instance (calls : List Call) : Decidable (Chronological calls) :=
  inferInstanceAs (Decidable (List.Pairwise _ _))

/-- A call that appends or drains: it keeps the windows, and forgets no refused id before its
window is over. -/
def Call.IsSteady : Call → Prop
  | .append _ _ | .drain _ => True
  | .setTuning _ | .reset => False

instance (call : Call) : Decidable call.IsSteady :=
  match call with
  | .append _ _ | .drain _ => isTrue trivial
  | .setTuning _ | .reset => isFalse id

/-- A steady call appends a record or drains the queue. -/
theorem Call.IsSteady.eq_append_or_drain {call : Call} (h : call.IsSteady) :
    (∃ now r, call = .append now r) ∨ ∃ now, call = .drain now := by
  cases call with
  | append now r => exact .inl ⟨now, r, rfl⟩
  | drain now => exact .inr ⟨now, rfl⟩
  | setTuning tuning => exact h.elim
  | reset => exact h.elim

/-- The time of the first drain among the calls, or of the one that follows them. -/
def firstDrain (calls : List Call) (next : Instant) : Instant :=
  (calls.filterMap Call.drainTime?).headD next

/-- The entry of the id stays in the queue throughout the calls. -/
def Stays (q : Queue) (id : String) (calls : List Call) : Prop :=
  ∀ done, done <+: calls → (q.after done).held.contains id = true

/-- What has just arrived for the id is part of what a drain after the calls releases: its entry
stays until then, and the drain releases it. -/
def Contributes (q : Queue) (id : String) (calls : List Call) (now : Instant) : Prop :=
  q.Stays id calls ∧ ∃ r, r ∈ ((q.after calls).drain now).2.1.recordsOf id

/-- No drain before a call reads a later time than the call. -/
theorem Chronological.le_of_mem_drainTimes {first second : List Call} {call : Call}
    {now t : Instant} (h : Chronological (first ++ call :: second)) (hcall : call.time? = some now)
    (ht : t ∈ first.filterMap Call.drainTime?) : t ≤ now := by
  obtain ⟨drain, hdrain, htime⟩ := List.mem_filterMap.mp ht
  have hread : drain.time? = some t := by cases drain <;> simp_all [Call.time?, Call.drainTime?]
  rw [Chronological, List.filterMap_append, List.pairwise_append] at h
  exact h.2.2 t (List.mem_filterMap.mpr ⟨drain, hdrain, hread⟩) now
    (List.mem_filterMap.mpr ⟨call, List.mem_cons_self, hcall⟩)

/-- An entry that is held stays while nothing is called. -/
theorem stays_nil {q : Queue} {id : String} (h : q.held.contains id = true) : q.Stays id [] := by
  intro done hdone
  rwa [List.prefix_nil.mp hdone]

/-- An entry that stays through a run stays through the rest after the first call. -/
theorem Stays.tail {q : Queue} {id : String} {call : Call} {calls : List Call}
    (h : q.Stays id (call :: calls)) : (q.perform call).Stays id calls := by
  intro done hdone
  exact h (call :: done) ((List.prefix_cons_inj call).mpr hdone)

/-- An entry that stays through a run is held after the first call. -/
theorem Stays.after_first {q : Queue} {id : String} {call : Call} {calls : List Call}
    (hstays : q.Stays id (call :: calls)) : ∃ h, (q.perform call).held.get? id = some h := by
  have hfirst := hstays [call] ((List.prefix_cons_inj call).mpr List.nil_prefix)
  rw [Dict.contains_eq_isSome] at hfirst
  exact Option.isSome_iff_exists.mp hfirst

/-- As long as an entry stays, every record of its entity is merged onto it. -/
theorem record_held_after_of_stays {q : Queue} {id : String} {calls : List Call}
    (hstays : q.Stays id calls) :
    ((q.after calls).held.get? id).map (·.record) =
      Record.mergeOnto ((q.held.get? id).map (·.record)) (appendedTo id calls) := by
  induction calls generalizing q with
  | nil => rfl
  | cons call rest ih =>
    have hstep : ((q.perform call).held.get? id).map (·.record) =
        Record.mergeOnto ((q.held.get? id).map (·.record)) (appendedTo id [call]) := by
      obtain ⟨h, hheld⟩ := hstays.after_first
      cases call with
      | append now r =>
        have hquiet : (Call.append now r).IsQuiet := trivial
        exact record_held_perform hquiet id
      | setTuning tuning =>
        have hquiet : (Call.setTuning tuning).IsQuiet := trivial
        exact record_held_perform hquiet id
      | drain now =>
        rw [hheld, (get?_held_drain_eq_some_iff.mp hheld).1]
        rfl
      | reset =>
        rw [perform, reset, Dict.get?_empty] at hheld
        cases hheld
    have happended : appendedTo id (call :: rest) = appendedTo id [call] ++ appendedTo id rest :=
      appendedTo_append id [call] rest
    rw [after_cons, ih hstays.tail, hstep, happended, Record.mergeOnto_append]

/-- What has arrived is part of its entry for as long as the entry stays. -/
theorem Stays.carries {q : Queue} {now : Instant} {r : Record} {calls : List Call} {h : Held}
    (hstays : (q.append now r).Stays r.targetId calls)
    (hheld : ((q.append now r).after calls).held.get? r.targetId = some h) :
    h.record.Carries r := by
  have hmerged := record_held_after_of_stays hstays
  rw [hheld, get?_held_append, if_pos rfl, Option.map_some, Option.map_some] at hmerged
  refine (Record.carries_of_mergeOnto_eq_some hmerged.symm).trans ?_
  cases q.held.get? r.targetId with
  | none => exact .refl r
  | some before => exact before.record.carries_merge_right r

/-- Steady calls keep the windows. -/
theorem tuning_after {q : Queue} {calls : List Call} (hsteady : ∀ call ∈ calls, call.IsSteady) :
    (q.after calls).tuning = q.tuning := by
  induction calls generalizing q with
  | nil => rfl
  | cons call rest ih =>
    obtain ⟨hcall, hrest⟩ := List.forall_mem_cons.mp hsteady
    rw [after_cons, ih hrest]
    rcases hcall.eq_append_or_drain with ⟨now, r, rfl⟩ | ⟨now, rfl⟩
    · rfl
    · rfl

section Window

variable {q : Queue} {id : String} {added : Instant}

/-- A retired id stays blacklisted since then as long as no drain comes after its window and none
retires it again. -/
theorem get?_blacklist_after (hq : q.Keyed) {calls : List Call}
    (hsteady : ∀ call ∈ calls, call.IsSteady) (hnever : q.NeverRetires id calls)
    (hadded : q.blacklist.get? id = some added)
    (hdrains : ∀ t ∈ calls.filterMap Call.drainTime?, t.since added ≤ q.tuning.deleteBlacklist) :
    (q.after calls).blacklist.get? id = some added := by
  have hreset : Call.reset ∉ calls := fun hmem => hsteady _ hmem
  refine (hq.get?_blacklist_after_iff hreset hnever).mpr ⟨hadded, ?_⟩
  rintro earlier now later rfl
  have hwindows : (q.after earlier).tuning = q.tuning :=
    tuning_after fun call hcall => hsteady call (List.mem_append_left _ hcall)
  rw [hwindows]
  refine hdrains now (List.mem_filterMap.mpr ⟨.drain now, ?_, rfl⟩)
  exact List.mem_append_right earlier List.mem_cons_self

/-- A drain within the window drops what waits under a retired id, so it is not released. -/
theorem not_contributes_of_early {calls : List Call} {now : Instant}
    (hq : q.Keyed) (hsteady : ∀ call ∈ calls, call.IsSteady)
    (hadded : q.blacklist.get? id = some added)
    (hearly : (firstDrain calls now).since added ≤ q.tuning.deleteBlacklist) :
    ¬q.Contributes id calls now := by
  induction calls generalizing q with
  | nil =>
    rintro ⟨_, hreleased⟩
    obtain ⟨h, hdue⟩ := (hq.exists_mem_recordsOf_iff (.refl _)).mp hreleased
    have hrefused : q.refuses now id = true := refuses_iff.mpr ⟨added, hadded, hearly⟩
    rw [(get?_due_eq_some_iff.mp hdue).2.1] at hrefused
    exact Bool.false_ne_true hrefused
  | cons call rest ih =>
    obtain ⟨hcall, hrest⟩ := List.forall_mem_cons.mp hsteady
    rintro ⟨hstays, hreleased⟩
    rcases hcall.eq_append_or_drain with ⟨time, r, rfl⟩ | ⟨time, rfl⟩
    · exact ih (hq.perform (.append time r)) hrest hadded hearly ⟨hstays.tail, hreleased⟩
    · have hrefused : q.refuses time id = true := refuses_iff.mpr ⟨added, hadded, hearly⟩
      obtain ⟨h, hheld⟩ := hstays.after_first
      rw [(get?_held_drain_eq_some_iff.mp hheld).2.1] at hrefused
      exact Bool.false_ne_true hrefused

/-- While its entry stays, an id that is not blacklisted does not become so. -/
theorem isBlacklisted_after_of_stays {calls : List Call} (hq : q.Keyed)
    (hsteady : ∀ call ∈ calls, call.IsSteady) (hstays : q.Stays id calls)
    (hfree : q.isBlacklisted id = false) : (q.after calls).isBlacklisted id = false := by
  induction calls generalizing q with
  | nil => exact hfree
  | cons call rest ih =>
    obtain ⟨hcall, hrest⟩ := List.forall_mem_cons.mp hsteady
    refine ih (hq.perform call) hrest hstays.tail ?_
    rcases hcall.eq_append_or_drain with ⟨now, r, rfl⟩ | ⟨now, rfl⟩
    · exact hfree
    · exact hq.isBlacklisted_drain_of_held hstays.after_first

/-- If no drain comes within the window, the entry of a retired id is not refused as long as it
stays. -/
theorem refuses_after_of_late {calls : List Call} {now : Instant} (hq : q.Keyed)
    (hsteady : ∀ call ∈ calls, call.IsSteady) (hstays : q.Stays id calls)
    (hadded : q.blacklist.get? id = some added)
    (hlate : ¬(firstDrain calls now).since added ≤ q.tuning.deleteBlacklist) :
    (q.after calls).refuses now id = false := by
  induction calls generalizing q with
  | nil =>
    rw [← Bool.not_eq_true]
    intro hrefused
    obtain ⟨since, hsince, hwindow⟩ := refuses_iff.mp hrefused
    rw [after_nil, hadded, Option.some.injEq] at hsince
    exact hlate (hsince ▸ hwindow)
  | cons call rest ih =>
    obtain ⟨hcall, hrest⟩ := List.forall_mem_cons.mp hsteady
    rcases hcall.eq_append_or_drain with ⟨time, r, rfl⟩ | ⟨time, rfl⟩
    · exact ih (hq.perform (.append time r)) hrest hstays.tail hadded hlate
    · -- the entry outlived this drain, so the id is free from here on
      have hfree := hq.isBlacklisted_drain_of_held hstays.after_first
      have hlast := isBlacklisted_after_of_stays (hq.perform (.drain time)) hrest hstays.tail hfree
      rw [after_cons, ← Bool.not_eq_true]
      intro hrefused
      rw [isBlacklisted_of_refuses hrefused] at hlast
      exact Bool.false_ne_true hlast.symm

/-- What waits under a retired id is released if and only if no drain comes within the window,
the entry stays, and it is due. -/
theorem contributes_iff {calls : List Call} {now : Instant} (hq : q.Keyed)
    (hsteady : ∀ call ∈ calls, call.IsSteady) (hadded : q.blacklist.get? id = some added) :
    q.Contributes id calls now ↔
      ¬(firstDrain calls now).since added ≤ q.tuning.deleteBlacklist ∧ q.Stays id calls ∧
      ∃ h, (q.after calls).held.get? id = some h ∧ h.isShortlived = false ∧
        isDue q.tuning now h = true := by
  have hkeyed := hq.after calls
  have htuning := tuning_after (q := q) hsteady
  constructor
  · intro hcontributes
    have hlate : ¬(firstDrain calls now).since added ≤ q.tuning.deleteBlacklist :=
      fun hearly => not_contributes_of_early hq hsteady hadded hearly hcontributes
    obtain ⟨hstays, hreleased⟩ := hcontributes
    obtain ⟨h, hdue⟩ := (hkeyed.exists_mem_recordsOf_iff (.refl _)).mp hreleased
    obtain ⟨hheld, _, hshort, hisdue⟩ := get?_due_eq_some_iff.mp hdue
    exact ⟨hlate, hstays, h, hheld, hshort, htuning ▸ hisdue⟩
  · rintro ⟨hlate, hstays, h, hheld, hshort, hisdue⟩
    have hrefused := refuses_after_of_late hq hsteady hstays hadded hlate
    refine ⟨hstays, (hkeyed.exists_mem_recordsOf_iff (.refl _)).mpr ⟨h, ?_⟩⟩
    exact get?_due_eq_some_iff.mpr ⟨hheld, hrefused, hshort, htuning.symm ▸ hisdue⟩

end Window

/-- **A retired id is refused if a drain comes within its window.** A drain at `b` is the last to
retire the id of a record that arrives at `a`, within the window. The record is part of what a
later drain at `d` releases if and only if no drain since its arrival comes within the window, its
entry stays, and the entry is due and not short-lived. The entry carries the record then. -/
theorem contributes_iff_first_drain_late {q : Queue} (hq : q.Reachable) {a b d : Instant}
    {r : Record} {between later : List Call}
    (hchronological : Chronological
      (.drain b :: (between ++ .append a r :: (later ++ [.drain d]))))
    (hsteady : ∀ call ∈ between ++ later, call.IsSteady) (hretires : q.Retires b r.targetId)
    (hlast : (q.drain b).1.NeverRetires r.targetId between)
    (hwithin : a.nanos ≤ b.nanos + q.tuning.deleteBlacklist.nanos) :
    ((q.after (.drain b :: between)).append a r).Contributes r.targetId later d ↔
      b.nanos + q.tuning.deleteBlacklist.nanos < (firstDrain later d).nanos ∧
      ((q.after (.drain b :: between)).append a r).Stays r.targetId later ∧
      ∃ h,
        (((q.after (.drain b :: between)).append a r).after later).held.get? r.targetId = some h ∧
        h.record.Carries r ∧ h.isShortlived = false ∧ isDue q.tuning d h = true := by
  have hkeyed := hq.keyed
  have hbetween : ∀ call ∈ between, call.IsSteady :=
    fun call hcall => hsteady call (List.mem_append_left later hcall)
  have hlater : ∀ call ∈ later, call.IsSteady :=
    fun call hcall => hsteady call (List.mem_append_right between hcall)
  have hdrains : ∀ t ∈ between.filterMap Call.drainTime?, t.since b ≤ q.tuning.deleteBlacklist := by
    intro t ht
    have hafter : Chronological (between ++ .append a r :: (later ++ [.drain d])) :=
      (List.pairwise_cons.mp hchronological).2
    have hle : t ≤ a := hafter.le_of_mem_drainTimes rfl ht
    have hnanos : t.nanos ≤ a.nanos := hle
    rw [Instant.since_le_iff]
    omega
  have hadded : ((q.after (.drain b :: between)).append a r).blacklist.get? r.targetId = some b :=
    get?_blacklist_after (hkeyed.perform (.drain b)) hbetween hlast
      (hkeyed.get?_blacklist_of_retires hretires) hdrains
  have hwindow : ((q.after (.drain b :: between)).append a r).tuning = q.tuning :=
    tuning_after (q := (q.drain b).1) hbetween
  have harrived : ((q.after (.drain b :: between)).append a r).Keyed :=
    (hkeyed.after (.drain b :: between)).perform (.append a r)
  -- the drain at `b` is still what the id is refused for when the record arrives
  rw [contributes_iff harrived hlater hadded, hwindow, Instant.since_le_iff, Int.not_le]
  refine and_congr_right fun _ => and_congr_right fun hstays => exists_congr fun h => ?_
  exact and_congr_right fun hheld => (and_iff_right (hstays.carries hheld)).symm

/-- A host is deleted. -/
def hostDeletion : Record :=
  { targetId := "host", lifecycle := .delete }

/-- The host is renamed. -/
def hostRename : Record :=
  { targetId := "host", fields := .ofList [("name", .string "web")] }

/-- The deletion of the host is released at 1000 s and the host is renamed at 1300 s. The next
drain comes one second after the window of 600 s, so it releases the new name. -/
theorem contributes_hostRename :
    (((fresh {}).after [.append (.ofSeconds 1000) hostDeletion, .drain (.ofSeconds 1000),
      .append (.ofSeconds 1200) { targetId := "disk" }]).append
        (.ofSeconds 1300) hostRename).Contributes "host" [] (.ofSeconds 1601) := by
  have hlast : (((fresh {}).after [.append (.ofSeconds 1000) hostDeletion]).drain
      (.ofSeconds 1000)).1.NeverRetires "host"
        [.append (.ofSeconds 1200) { targetId := "disk" }] :=
    neverRetires_of_no_drain (by decide)
  have hstays : (((fresh {}).after [.append (.ofSeconds 1000) hostDeletion,
      .drain (.ofSeconds 1000), .append (.ofSeconds 1200) { targetId := "disk" }]).append
        (.ofSeconds 1300) hostRename).Stays "host" [] := stays_nil (by decide)
  have hreachable : ((fresh {}).after [.append (.ofSeconds 1000) hostDeletion]).Reachable :=
    ⟨{}, _, rfl⟩
  refine (contributes_iff_first_drain_late (r := hostRename) hreachable (by decide) (by decide)
    (by decide) hlast (by decide)).mpr ⟨by decide, hstays, ⟨.ofSeconds 1300, hostRename⟩, ?_⟩
  exact ⟨by decide, .refl hostRename, by decide, by decide⟩

/-- Records that arrive within the window of a retired id are not always dropped: they are
released if no drain comes until the window is over. -/
theorem not_every_arrival_within_window_dropped :
    ¬∀ (tuning : Tuning) (before between later : List Call) (a b d : Instant) (r : Record),
      Chronological (before ++ .drain b :: (between ++ .append a r :: (later ++ [.drain d]))) →
      (∀ call ∈ before ++ between ++ later, call.IsSteady) →
      ((fresh tuning).after before).Retires b r.targetId →
      a.nanos ≤ b.nanos + tuning.deleteBlacklist.nanos →
      ¬(((fresh tuning).after (before ++ .drain b :: between)).append a r).Contributes
        r.targetId later d := by
  intro hdropped
  refine hdropped {} [.append (.ofSeconds 1000) hostDeletion] [] [] (.ofSeconds 1300)
    (.ofSeconds 1000) (.ofSeconds 1601) hostRename (by decide) (by decide) (by decide)
    (by decide) ⟨stays_nil (by decide), ?_⟩
  exact ⟨hostRename, by decide⟩

end Queue

end CloudCollector
