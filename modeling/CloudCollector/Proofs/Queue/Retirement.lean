import CloudCollector.Proofs.Queue.Run

/-!
# Retired ids

A drain that releases a deletion of an entity, or drops what was created and deleted while it
waited, retires the id: it is blacklisted from then on, and nothing waits under it. This file
reads the blacklist after a drain off what the drain did.
-/

namespace CloudCollector.Queue

/-- A drain retires an id when it drops a short-lived entry of it or releases a deletion. -/
def Retires (q : Queue) (now : Instant) (id : String) : Prop :=
  id ∈ q.shortlivedIds ∨ ∃ r ∈ (q.drain now).2.1.recordsOf id, r.deletes = true

instance (q : Queue) (now : Instant) (id : String) : Decidable (q.Retires now id) :=
  inferInstanceAs (Decidable (_ ∨ _))

/-- No drain of the run retires the id. -/
def NeverRetires (q : Queue) (id : String) (calls : List Call) : Prop :=
  ∀ earlier now later, calls = earlier ++ .drain now :: later → ¬(q.after earlier).Retires now id

/-- An entity never retires in a run if none of the drains retires it. -/
theorem neverRetires_iff {q : Queue} {id : String} {calls : List Call} :
    q.NeverRetires id calls ↔
      EachDrain calls fun earlier now => ¬(q.after earlier).Retires now id :=
  Iff.rfl

instance (q : Queue) (id : String) (calls : List Call) : Decidable (q.NeverRetires id calls) :=
  decidable_of_iff _ neverRetires_iff.symm

/-- A run without drains retires nothing. -/
theorem neverRetires_of_no_drain {q : Queue} {id : String} {calls : List Call}
    (h : ∀ call ∈ calls, call.drainTime? = none) : q.NeverRetires id calls := by
  rintro earlier now later rfl
  cases h (.drain now) (List.mem_append_right earlier List.mem_cons_self)

/-- A drain that drops no short-lived entry of an id retires it if and only if a deletion that is
not refused waits under it. -/
theorem Keyed.retires_iff {q : Queue} (hq : q.Keyed) {now : Instant} {id : String} :
    q.Retires now id ↔ ∃ h, q.held.get? id = some h ∧ h.record.deletes = true ∧
      (h.record.creates = true ∨ q.refuses now id = false) := by
  rw [Retires, mem_shortlivedIds_iff, hq.exists_deletes_iff (.refl _)]
  constructor
  · rintro (⟨h, hheld, hshort⟩ | ⟨h, hheld, hrefused, _, hdeletes⟩)
    · simp only [Held.isShortlived, Bool.and_eq_true] at hshort
      exact ⟨h, hheld, hshort.2, .inl hshort.1⟩
    · exact ⟨h, hheld, hdeletes, .inr hrefused⟩
  · rintro ⟨h, hheld, hdeletes, hreason⟩
    cases hcreates : h.record.creates with
    | true => exact .inl ⟨h, hheld, by rw [Held.isShortlived, hcreates, hdeletes]; rfl⟩
    | false =>
      refine .inr ⟨h, hheld, ?_, hcreates, hdeletes⟩
      exact hreason.resolve_left (by rw [hcreates]; exact Bool.false_ne_true)

/-- A drain refuses from its time on what it deletes and what was short-lived, and goes on refusing
what it has not forgotten. -/
private theorem get?_blacklist_drain (q : Queue) (now : Instant) (id : String) :
    (q.drain now).1.blacklist.get? id =
      if id ∈ ((q.due now).filter fun _ h => h.record.deletes).keys then some now
      else if id ∈ q.shortlivedIds then some now
      else (q.unexpired now).get? id := by
  have hblacklist : (q.drain now).1.blacklist =
      ((q.unexpired now).insertAll q.shortlivedIds now).insertAll
        ((q.due now).filter fun _ h => h.record.deletes).keys now := rfl
  rw [hblacklist, Dict.get?_insertAll, Dict.get?_insertAll]

/-- An id is deleted by a drain if the entry that is due for it deletes. -/
private theorem mem_deleted_keys_iff {q : Queue} {now : Instant} {id : String} :
    id ∈ ((q.due now).filter fun _ h => h.record.deletes).keys ↔
      ∃ h, (q.due now).get? id = some h ∧ h.record.deletes = true := by
  simp only [Dict.mem_keys_iff, Dict.get?_filter, Option.filter_eq_some_iff]

/-- A retired id is blacklisted from the time of the drain on. -/
theorem Keyed.get?_blacklist_of_retires {q : Queue} (hq : q.Keyed) {now : Instant} {id : String}
    (h : q.Retires now id) : (q.drain now).1.blacklist.get? id = some now := by
  rw [get?_blacklist_drain]
  split
  · rfl
  · next hdeleted =>
    split
    · rfl
    · next hshort =>
      obtain ⟨entry, hheld, hrefused, hcreates, hdeletes⟩ :=
        (hq.exists_deletes_iff (.refl _)).mp (h.resolve_left hshort)
      refine absurd (mem_deleted_keys_iff.mpr ⟨entry, ?_, hdeletes⟩) hdeleted
      refine get?_due_eq_some_iff.mpr ⟨hheld, hrefused, ?_, isDue_of_deletes hdeletes⟩
      rw [Held.isShortlived, hcreates, Bool.false_and]

/-- A drain that does not retire an id only forgets it when its window has passed. -/
theorem Keyed.get?_blacklist_of_not_retires {q : Queue} (hq : q.Keyed) {now : Instant}
    {id : String} (h : ¬q.Retires now id) :
    (q.drain now).1.blacklist.get? id = (q.unexpired now).get? id := by
  have hshort : id ∉ q.shortlivedIds := fun hmem => h (.inl hmem)
  have hdeleted : id ∉ ((q.due now).filter fun _ h => h.record.deletes).keys := by
    intro hmem
    obtain ⟨entry, hdue, hdeletes⟩ := mem_deleted_keys_iff.mp hmem
    obtain ⟨hheld, hrefused, _, _⟩ := get?_due_eq_some_iff.mp hdue
    exact h (hq.retires_iff.mpr ⟨entry, hheld, hdeletes, .inr hrefused⟩)
  rw [get?_blacklist_drain, if_neg hdeleted, if_neg hshort]

/-- Nothing waits under a retired id. -/
theorem Keyed.get?_held_of_retires {q : Queue} (hq : q.Keyed) {now : Instant} {id : String}
    (h : q.Retires now id) : (q.drain now).1.held.get? id = none := by
  obtain ⟨entry, hheld, hdeletes, _⟩ := hq.retires_iff.mp h
  rw [get?_held_drain, hheld, Option.filter_some]
  simp [spares, isDue_of_deletes hdeletes]

/-- A drain does not blacklist an id that it does not retire. -/
theorem Keyed.isBlacklisted_drain {q : Queue} (hq : q.Keyed) {now : Instant} {id : String}
    (h : (q.drain now).1.isBlacklisted id = true) :
    q.Retires now id ∨ q.refuses now id = true := by
  by_cases hretires : q.Retires now id
  · exact .inl hretires
  · rw [isBlacklisted, Dict.contains_eq_isSome, hq.get?_blacklist_of_not_retires hretires] at h
    exact .inr h

/-- An id whose entry a drain leaves in the queue is not blacklisted. -/
theorem Keyed.isBlacklisted_drain_of_held {q : Queue} (hq : q.Keyed) {now : Instant} {id : String}
    (hstays : ∃ h, (q.drain now).1.held.get? id = some h) :
    (q.drain now).1.isBlacklisted id = false := by
  obtain ⟨h, hheld⟩ := hstays
  rw [← Bool.not_eq_true]
  intro hlisted
  rcases hq.isBlacklisted_drain hlisted with hretires | hrefused
  · rw [hq.get?_held_of_retires hretires] at hheld
    cases hheld
  · rw [(get?_held_drain_eq_some_iff.mp hheld).2.1] at hrefused
    exact Bool.false_ne_true hrefused

end CloudCollector.Queue
