import CloudCollector.Proofs.Queue.Split

/-!
# What becomes of an entry in a drain

A drain meets each waiting entry on its own. The entry is dropped because its id is refused,
dropped because the entity was created and deleted while it waited, released because it is due,
or it stays. These lookups are all that later proofs use of the drain's definition.
-/

namespace CloudCollector.Queue

/-- A queue files every entry under the id of its record. -/
def Keyed (q : Queue) : Prop :=
  ∀ id h, q.held.get? id = some h → h.record.targetId = id

/-- Whether a drain still refuses the id because of an earlier drain. -/
def refuses (q : Queue) (now : Instant) (id : String) : Bool :=
  (q.unexpired now).contains id

/-- Whether a drain leaves an entry of the id alone: the id is not refused, and the entry is
neither short-lived nor due. -/
def spares (q : Queue) (now : Instant) (id : String) (h : Held) : Bool :=
  !q.refuses now id && !h.isShortlived && !isDue q.tuning now h

/-- The entries that a drain releases. -/
def due (q : Queue) (now : Instant) : Dict Held :=
  (q.admitted now).2.filter fun _ h => isDue q.tuning now h

/-- A drain refuses the ids whose window since their last deletion has not passed. -/
theorem refuses_iff {q : Queue} {now : Instant} {id : String} :
    q.refuses now id = true ↔
      ∃ added, q.blacklist.get? id = some added ∧ now.since added ≤ q.tuning.deleteBlacklist := by
  rw [refuses, Dict.contains_eq_isSome, unexpired, Dict.get?_filter]
  cases q.blacklist.get? id <;> simp [Option.filter]

/-- A drain refuses blacklisted ids only. -/
theorem isBlacklisted_of_refuses {q : Queue} {now : Instant} {id : String}
    (h : q.refuses now id = true) : q.isBlacklisted id = true := by
  obtain ⟨added, hadded, _⟩ := refuses_iff.mp h
  rw [isBlacklisted, Dict.contains_eq_isSome, hadded, Option.isSome_some]

/-- The short-lived ids are those of the short-lived entries. -/
theorem mem_shortlivedIds_iff {q : Queue} {id : String} :
    id ∈ q.shortlivedIds ↔ ∃ h, q.held.get? id = some h ∧ h.isShortlived = true := by
  simp only [shortlivedIds, Dict.mem_keys_iff, Dict.get?_filter, Option.filter_eq_some_iff]

/-- A deletion is due at once. -/
theorem isDue_of_deletes {tuning : Tuning} {now : Instant} {h : Held}
    (hdeletes : h.record.deletes = true) : isDue tuning now h = true := by
  rw [isDue, releaseTime, if_pos hdeletes, Option.any_some, decide_eq_true_eq]
  exact Int.le_refl _

/-- After a drain has dropped what it drops, an id is refused if it was or if its entity was
short-lived. -/
private theorem contains_admitted (q : Queue) (now : Instant) (id : String) :
    (q.admitted now).1.contains id = (q.refuses now id || decide (id ∈ q.shortlivedIds)) := by
  rw [admitted, Dict.contains_eq_isSome, Dict.get?_insertAll, refuses, Dict.contains_eq_isSome]
  by_cases h : id ∈ q.shortlivedIds <;> simp [h]

/-- The entries that a drain admits are neither refused nor short-lived. -/
theorem get?_admitted (q : Queue) (now : Instant) (id : String) :
    (q.admitted now).2.get? id =
      (q.held.get? id).filter fun h => !q.refuses now id && !h.isShortlived := by
  have hadmitted : (q.admitted now).2 =
      q.held.filter fun id _ => !(q.admitted now).1.contains id := rfl
  rw [hadmitted, Dict.get?_filter]
  cases hheld : q.held.get? id with
  | none => rfl
  | some h =>
    have hshort : decide (id ∈ q.shortlivedIds) = h.isShortlived := by
      rw [Bool.eq_iff_iff, decide_eq_true_eq, mem_shortlivedIds_iff, hheld]
      simp
    rw [Option.filter_some, Option.filter_some, contains_admitted, hshort, Bool.not_or]

/-- The entries that a drain releases are admitted and due. -/
theorem get?_due (q : Queue) (now : Instant) (id : String) :
    (q.due now).get? id = (q.held.get? id).filter fun h =>
      !q.refuses now id && !h.isShortlived && isDue q.tuning now h := by
  rw [due, Dict.get?_filter, get?_admitted, Option.filter_filter]

/-- An entry is due for release if it is held, not refused and not short-lived, and its window has
passed. -/
theorem get?_due_eq_some_iff {q : Queue} {now : Instant} {id : String} {h : Held} :
    (q.due now).get? id = some h ↔
      q.held.get? id = some h ∧ q.refuses now id = false ∧ h.isShortlived = false ∧
        isDue q.tuning now h = true := by
  rw [get?_due, Option.filter_eq_some_iff]
  simp only [Bool.and_eq_true, Bool.not_eq_true', and_assoc]

/-- The entries that a drain spares wait on, unchanged. -/
theorem get?_held_drain (q : Queue) (now : Instant) (id : String) :
    (q.drain now).1.held.get? id = (q.held.get? id).filter (q.spares now id) := by
  have hheld : (q.drain now).1.held =
      (q.admitted now).2.filter fun _ h => !isDue q.tuning now h := rfl
  rw [hheld, Dict.get?_filter, get?_admitted, Option.filter_filter]
  rfl

/-- An entry stays if it was held, is not refused and not short-lived, and its window has not
passed. -/
theorem get?_held_drain_eq_some_iff {q : Queue} {now : Instant} {id : String} {h : Held} :
    (q.drain now).1.held.get? id = some h ↔
      q.held.get? id = some h ∧ q.refuses now id = false ∧ h.isShortlived = false ∧
        isDue q.tuning now h = false := by
  rw [get?_held_drain, Option.filter_eq_some_iff]
  simp only [spares, Bool.and_eq_true, Bool.not_eq_true', and_assoc]

/-- An entry whose id is not refused is dropped if it is short-lived, released if it is due, and
left alone otherwise. -/
theorem fate_of_not_refused {q : Queue} {now : Instant} {id : String} {h : Held}
    (hheld : q.held.get? id = some h) (hrefused : q.refuses now id = false) :
    (h.isShortlived = true ∧ (q.due now).get? id = none ∧
      (q.drain now).1.held.get? id = none) ∨
    (h.isShortlived = false ∧ (q.due now).get? id = some h ∧
      (q.drain now).1.held.get? id = none) ∨
    (h.isShortlived = false ∧ (q.due now).get? id = none ∧
      (q.drain now).1.held.get? id = some h) := by
  rw [get?_due, get?_held_drain, hheld, Option.filter_some, Option.filter_some, spares, hrefused]
  cases hshort : h.isShortlived <;> cases hdue : isDue q.tuning now h <;> simp

/-- What a drain releases. -/
theorem release_drain (q : Queue) (now : Instant) :
    (q.drain now).2.1 = (group (q.due now)).split := rfl

/-- The created records of a release are what remains of the creations that are due. -/
theorem mem_creates_drain_iff {q : Queue} {now : Instant} {c : Record} :
    c ∈ (q.drain now).2.1.creates ↔
      ∃ id h, (q.due now).get? id = some h ∧ h.record.creates = true ∧
        c = h.record.withoutLinks (group (q.due now)).linkTargets := by
  rw [release_drain, Release.split_eq rfl]
  simp only [group, List.mem_map, List.mem_filter, Dict.mem_values_iff]
  constructor
  · rintro ⟨_, ⟨⟨h, ⟨id, hdue⟩, rfl⟩, hcreates⟩, rfl⟩
    exact ⟨id, h, hdue, hcreates, rfl⟩
  · rintro ⟨id, h, hdue, hcreates, rfl⟩
    exact ⟨h.record, ⟨⟨h, ⟨id, hdue⟩, rfl⟩, hcreates⟩, rfl⟩

/-- The link records of a release have the references of the creations that are due. -/
theorem mem_links_drain_iff {q : Queue} {now : Instant} {l : Record} :
    l ∈ (q.drain now).2.1.links ↔
      ∃ id h, (q.due now).get? id = some h ∧ h.record.creates = true ∧
        h.record.links? (group (q.due now)).linkTargets = some l := by
  rw [release_drain, Release.split_eq rfl]
  simp only [group, List.mem_filterMap, List.mem_map, List.mem_filter, Dict.mem_values_iff]
  constructor
  · rintro ⟨_, ⟨⟨h, ⟨id, hdue⟩, rfl⟩, hcreates⟩, hlink⟩
    exact ⟨id, h, hdue, hcreates, hlink⟩
  · rintro ⟨id, h, hdue, hcreates, hlink⟩
    exact ⟨h.record, ⟨⟨h, ⟨id, hdue⟩, rfl⟩, hcreates⟩, hlink⟩

/-- The other records of a release create nothing. -/
theorem creates_of_mem_updates_drain {q : Queue} {now : Instant} {r : Record}
    (h : r ∈ (q.drain now).2.1.updates) : r.creates = false := by
  rw [release_drain, Release.split_eq rfl] at h
  simpa using (List.mem_filter.mp h).2

section Keyed

variable {q : Queue} (hq : q.Keyed)

include hq

/-- What is due is filed under the id of its record. -/
theorem Keyed.due (now : Instant) :
    ∀ id h, (q.due now).get? id = some h → h.record.targetId = id := by
  intro id h hdue
  exact hq id h (get?_due_eq_some_iff.mp hdue).1

/-- Whatever its arrangement, a release has at most one record of each kind for an entity. -/
theorem Keyed.single_drain {now : Instant} {out : Release}
    (hout : out.Rearranges (q.drain now).2.1) : out.Single :=
  hout.single (single_split_group (hq.due now))

/-- The created record of an entity, whatever the arrangement of the release. -/
theorem Keyed.filter_creates_drain {now : Instant} {out : Release}
    (hout : out.Rearranges (q.drain now).2.1) (id : String) :
    (out.creates.filter fun r => r.targetId = id) = ((q.due now).get? id).elim [] fun h =>
      if h.record.creates then [h.record.withoutLinks (group (q.due now)).linkTargets] else [] := by
  have hone := (single_split_group (hq.due now) id).1
  rw [Release.filter_eq_of_perm hout.creates hone]
  exact filter_creates_split (hq.due now) id

/-- The link record of an entity, whatever the arrangement of the release. -/
theorem Keyed.filter_links_drain {now : Instant} {out : Release}
    (hout : out.Rearranges (q.drain now).2.1) (id : String) :
    (out.links.filter fun r => r.targetId = id) = ((q.due now).get? id).elim [] fun h =>
      if h.record.creates then (h.record.links? (group (q.due now)).linkTargets).toList
      else [] := by
  have hone := (single_split_group (hq.due now) id).2.1
  rw [Release.filter_eq_of_perm hout.links hone]
  exact filter_links_split (hq.due now) id

/-- The other record of an entity, whatever the arrangement of the release. -/
theorem Keyed.filter_updates_drain {now : Instant} {out : Release}
    (hout : out.Rearranges (q.drain now).2.1) (id : String) :
    (out.updates.filter fun r => r.targetId = id) = ((q.due now).get? id).elim [] fun h =>
      if h.record.creates then [] else [h.record] := by
  have hone := (single_split_group (hq.due now) id).2.2
  rw [Release.filter_eq_of_perm hout.updates hone]
  exact filter_updates_split (hq.due now) id

/-- Whatever the arrangement of a release, the records of an entity are the parts of the entry
that is due for it. -/
theorem Keyed.recordsOf_drain {now : Instant} {out : Release}
    (hout : out.Rearranges (q.drain now).2.1) (id : String) :
    out.recordsOf id =
      ((q.due now).get? id).elim [] fun h => h.record.parts (group (q.due now)).linkTargets := by
  rw [hout.recordsOf_eq (single_split_group (hq.due now))]
  exact recordsOf_split_group (hq.due now) id

/-- A drain releases a record of an entity exactly when an entry is due for it. -/
theorem Keyed.exists_mem_recordsOf_iff {now : Instant} {out : Release}
    (hout : out.Rearranges (q.drain now).2.1) {id : String} :
    (∃ r, r ∈ out.recordsOf id) ↔ ∃ h, (q.due now).get? id = some h := by
  rw [hq.recordsOf_drain hout]
  cases (q.due now).get? id with
  | none => simp
  | some h => cases hcreates : h.record.creates <;> simp [Record.parts, hcreates]

/-- A drain releases a deletion of an entity exactly when a deletion of it waits, is not refused
and is not short-lived. -/
theorem Keyed.exists_deletes_iff {now : Instant} {out : Release}
    (hout : out.Rearranges (q.drain now).2.1) {id : String} :
    (∃ r ∈ out.recordsOf id, r.deletes = true) ↔
      ∃ h, q.held.get? id = some h ∧ q.refuses now id = false ∧ h.record.creates = false ∧
        h.record.deletes = true := by
  have hparts : (∃ r ∈ out.recordsOf id, r.deletes = true) ↔
      ∃ h, (q.due now).get? id = some h ∧ h.record.deletes = true := by
    rw [hq.recordsOf_drain hout]
    cases hget : (q.due now).get? id with
    | none => simp
    | some h =>
      have hshort : h.isShortlived = false := (get?_due_eq_some_iff.mp hget).2.2.1
      simp only [Option.elim_some, Record.exists_deletes_parts_iff hshort, Option.some.injEq,
        exists_eq_left']
  rw [hparts]
  constructor
  · rintro ⟨h, hget, hdeletes⟩
    obtain ⟨hheld, hrefused, hshort, _⟩ := get?_due_eq_some_iff.mp hget
    refine ⟨h, hheld, hrefused, ?_, hdeletes⟩
    simpa [Held.isShortlived, hdeletes] using hshort
  · rintro ⟨h, hheld, hrefused, hcreates, hdeletes⟩
    refine ⟨h, get?_due_eq_some_iff.mpr ⟨hheld, hrefused, ?_, isDue_of_deletes hdeletes⟩, hdeletes⟩
    rw [Held.isShortlived, hcreates, Bool.false_and]

end Keyed

end CloudCollector.Queue
