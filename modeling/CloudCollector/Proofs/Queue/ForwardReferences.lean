import CloudCollector.Proofs.Queue.Timing

/-!
# References ahead of their creations

Within one release no record refers to an entity that is created behind it. From one release to
the next there is no such order: every entry leaves by its own window, so a record may refer to an
entity whose creation still waits. This file says exactly when that happens. Among creations it
needs one that was first seen before the creation it refers to, and a drain between the ends of
their windows.
-/

namespace CloudCollector

/-- The parts of a record refer to the same entities as the record. -/
theorem Record.exists_mem_parts_iff {r : Record} {ids : List String} {id : String} :
    (∃ p ∈ r.parts ids, id ∈ p.referencedIds) ↔ id ∈ r.referencedIds := by
  cases hcreates : r.creates with
  | false => simp [parts, hcreates]
  | true =>
    rw [parts, if_pos hcreates]
    constructor
    · rintro ⟨p, hp, hid⟩
      obtain ⟨name, value, hfield, hreference, hnamed⟩ := mem_referencedIds_iff.mp hid
      refine mem_referencedIds_iff.mpr ⟨name, value, ?_, hreference, hnamed⟩
      rcases List.mem_cons.mp hp with rfl | hlink
      · rw [withoutLinks, Dict.get?_filter, Option.filter_eq_some_iff] at hfield
        exact hfield.1
      · exact (linksTo_of_links? (Option.mem_toList.mp hlink) hfield).1
    · intro hid
      obtain ⟨name, value, hfield, hreference, hnamed⟩ := mem_referencedIds_iff.mp hid
      cases hlinks : linksTo ids name value with
      | false =>
        refine ⟨_, List.mem_cons_self, ?_⟩
        refine mem_referencedIds_iff.mpr ⟨name, value, ?_, hreference, hnamed⟩
        rw [withoutLinks, Dict.get?_filter, hfield, Option.filter_some, hlinks]
        rfl
      | true =>
        have hlinked : (r.linked ids).get? name = some value := by
          rw [linked, Dict.get?_filter, hfield, Option.filter_some, if_pos hlinks]
        cases hlink : r.links? ids with
        | none =>
          rw [links?_eq_none_iff.mp hlink, Dict.get?_empty] at hlinked
          cases hlinked
        | some link =>
          obtain ⟨-, rfl⟩ := links?_eq_some_iff.mp hlink
          refine ⟨_, List.mem_cons_of_mem _ (List.mem_singleton_self _), ?_⟩
          exact mem_referencedIds_iff.mpr ⟨name, value, hlinked, hreference, hnamed⟩

/-- When the window of an entry ends that does not delete, in nanoseconds since the epoch. -/
def Held.windowEnd (h : Held) (tuning : Tuning) : Int :=
  h.firstSeen.nanos + (tuning.holdTime h.record.creates).nanos

namespace Queue

/-- A drain releases a record of one entity that refers to another, while a creation of the other
waits on. -/
def RunsAhead (q : Queue) (now : Instant) (out : Release) (source target : String) : Prop :=
  (∃ r ∈ out.ordered, r.targetId = source ∧ target ∈ r.referencedIds) ∧
    ∃ k, (q.drain now).1.held.get? target = some k ∧ k.record.creates = true

/-- An entry is due if it deletes or its window has ended. -/
theorem isDue_iff_windowEnd_le {tuning : Tuning} {now : Instant} {h : Held} :
    isDue tuning now h = true ↔ h.record.deletes = true ∨ h.windowEnd tuning ≤ now.nanos := by
  rw [isDue_iff, Instant.exists_add?_le_iff, Held.windowEnd]

/-- A release refers to an entity exactly where an entry that is due does. -/
theorem Keyed.exists_reference_iff {q : Queue} (hq : q.Keyed) {now : Instant} {out : Release}
    (hout : out.Rearranges (q.drain now).2.1) {source target : String} :
    (∃ r ∈ out.ordered, r.targetId = source ∧ target ∈ r.referencedIds) ↔
      ∃ h, (q.due now).get? source = some h ∧ target ∈ h.record.referencedIds := by
  have hrecords : (∃ r ∈ out.ordered, r.targetId = source ∧ target ∈ r.referencedIds) ↔
      ∃ r ∈ out.recordsOf source, target ∈ r.referencedIds := by
    simp only [Release.recordsOf, List.mem_filter, decide_eq_true_eq, and_assoc]
  rw [hrecords, hq.recordsOf_drain hout]
  cases (q.due now).get? source with
  | none => simp
  | some h =>
    simp only [Option.elim_some, Record.exists_mem_parts_iff, Option.some.injEq, exists_eq_left']

/-- An entry waits on after a drain exactly if it is not refused, does not delete, and its window
has not ended. -/
theorem stays_iff_window_open {q : Queue} {now : Instant} {id : String} {k : Held} :
    (q.drain now).1.held.get? id = some k ↔ q.held.get? id = some k ∧
      q.refuses now id = false ∧ k.record.deletes = false ∧ now.nanos < k.windowEnd q.tuning := by
  rw [get?_held_drain, Option.filter_eq_some_iff, spares_iff]
  refine and_congr_right fun _ => and_congr_right fun _ => ?_
  rw [← Bool.not_eq_true, isDue_iff_windowEnd_le, not_or, Bool.not_eq_true, Int.not_le]

/-- Where an entry runs ahead, and what it runs ahead of. -/
theorem Keyed.runsAhead_iff {q : Queue} (hq : q.Keyed) {now : Instant} {out : Release}
    (hout : out.Rearranges (q.drain now).2.1) {source target : String} :
    q.RunsAhead now out source target ↔
      ∃ h k, q.held.get? source = some h ∧ q.held.get? target = some k ∧
        target ∈ h.record.referencedIds ∧ k.record.creates = true ∧
        q.refuses now source = false ∧ q.refuses now target = false ∧
        h.isShortlived = false ∧ k.record.deletes = false ∧
        (h.record.deletes = true ∨ h.windowEnd q.tuning ≤ now.nanos) ∧
        now.nanos < k.windowEnd q.tuning := by
  rw [RunsAhead, hq.exists_reference_iff hout]
  constructor
  · rintro ⟨⟨h, hdue, hnames⟩, k, hstays, hcreates⟩
    obtain ⟨hheld, hrefused, hshort, hisdue⟩ := get?_due_eq_some_iff.mp hdue
    obtain ⟨hwaits, hfree, hlives, hopen⟩ := stays_iff_window_open.mp hstays
    exact ⟨h, k, hheld, hwaits, hnames, hcreates, hrefused, hfree, hshort, hlives,
      isDue_iff_windowEnd_le.mp hisdue, hopen⟩
  · rintro ⟨h, k, hheld, hwaits, hnames, hcreates, hrefused, hfree, hshort, hlives, hdue, hopen⟩
    refine ⟨⟨h, get?_due_eq_some_iff.mpr ⟨hheld, hrefused, hshort, ?_⟩, hnames⟩, k, ?_, hcreates⟩
    · exact isDue_iff_windowEnd_le.mpr hdue
    · exact stays_iff_window_open.mpr ⟨hwaits, hfree, hlives, hopen⟩

/-- **Order of references between releases.** A drain releases a record that refers to an entity
whose creation waits on, if and only if an entry that refers to the entity is due, by a deletion
or because its window has ended, while the window of the creation has not ended. So a creation
never runs ahead of one that was first seen no later than itself: of two creations that refer to
each other only the one that was first seen earlier can. The same holds of an update, unless its
window is shorter than that of creations. -/
theorem runsAhead_iff_window_open {q : Queue} (hq : q.Reachable) {now : Instant} {out : Release}
    (hout : out.Rearranges (q.drain now).2.1) (source target : String) :
    (q.RunsAhead now out source target ↔
      ∃ h k, q.held.get? source = some h ∧ q.held.get? target = some k ∧
        target ∈ h.record.referencedIds ∧ k.record.creates = true ∧
        q.refuses now source = false ∧ q.refuses now target = false ∧
        h.isShortlived = false ∧ k.record.deletes = false ∧
        (h.record.deletes = true ∨ h.windowEnd q.tuning ≤ now.nanos) ∧
        now.nanos < k.windowEnd q.tuning) ∧
    ∀ h k, q.held.get? source = some h → q.held.get? target = some k →
      k.firstSeen ≤ h.firstSeen →
      (h.record.creates = true ∨
        h.record.deletes = false ∧ q.tuning.shortlived ≤ q.tuning.updateConsolidate) →
      ¬q.RunsAhead now out source target := by
  refine ⟨hq.keyed.runsAhead_iff hout, ?_⟩
  intro h k hheld hwaits hseen hkind hahead
  obtain ⟨h', k', hheld', hwaits', _, hcreates, _, _, hshort, _, hdue, hopen⟩ :=
    (hq.keyed.runsAhead_iff hout).mp hahead
  obtain rfl := Option.some.inj (hheld.symm.trans hheld')
  obtain rfl := Option.some.inj (hwaits.symm.trans hwaits')
  have hlives : h.record.deletes = false := by
    rcases hkind with hkind | ⟨hlives, -⟩
    · simpa [Held.isShortlived, hkind] using hshort
    · exact hlives
  have hended : h.windowEnd q.tuning ≤ now.nanos := hdue.resolve_left (by simp [hlives])
  -- the window of the entry is no shorter than that of the creation, and began no earlier
  have hwindow : q.tuning.shortlived.nanos ≤ (q.tuning.holdTime h.record.creates).nanos := by
    rw [Tuning.holdTime]
    split
    · exact Nat.le_refl _
    · next hupdates => exact (hkind.resolve_left hupdates).2
  have hnanos : k.firstSeen.nanos ≤ h.firstSeen.nanos := hseen
  rw [Held.windowEnd] at hended
  rw [Held.windowEnd, hcreates, Tuning.holdTime, if_pos rfl] at hopen
  omega

/-- A host is created that refers to another. -/
def leftCreation : Record :=
  { targetId := "left", lifecycle := .create, fields := .ofList [("set_peer", .string "right")] }

/-- The other host is created, and refers to the first. -/
def rightCreation : Record :=
  { targetId := "right", lifecycle := .create, fields := .ofList [("set_peer", .string "left")] }

/-- The second host is seen ten seconds after the first. -/
def peerCalls : List Call :=
  [.append (.ofSeconds 3000) leftCreation, .append (.ofSeconds 3010) rightCreation]

/-- At 3040 s the first host is released and refers to the second, which waits until 3050 s. -/
theorem left_runsAhead :
    ((fresh {}).after peerCalls).RunsAhead (.ofSeconds 3040)
      (((fresh {}).after peerCalls).drain (.ofSeconds 3040)).2.1 "left" "right" := by
  refine (runsAhead_iff_window_open ⟨{}, peerCalls, rfl⟩ (.refl _) "left" "right").1.mpr
    ⟨⟨.ofSeconds 3000, leftCreation⟩, ⟨.ofSeconds 3010, rightCreation⟩, ?_⟩
  decide

/-- Records do not always leave behind the creations that they refer to. -/
theorem not_every_reference_behind_creation :
    ¬∀ (tuning : Tuning) (calls : List Call) (now : Instant) (r : Record) (id : String),
      r ∈ (((fresh tuning).after calls).drain now).2.1.ordered → id ∈ r.referencedIds →
      ∀ k, (((fresh tuning).after calls).drain now).1.held.get? id = some k →
        k.record.creates = false := by
  intro hbehind
  have hreleased := hbehind {} peerCalls (.ofSeconds 3040) leftCreation "right" (by decide)
    (by decide) ⟨.ofSeconds 3010, rightCreation⟩ (by decide)
  exact absurd hreleased (by decide)

end Queue

end CloudCollector
