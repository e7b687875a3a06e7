import CloudCollector.Proofs.Queue.Conservation
import CloudCollector.Proofs.Queue.Timing

/-!
# Queues that a drain leaves as they are

A drain does nothing to a queue exactly when no refused id has served its window and every entry
is one that the drain spares. Each drain leaves such a queue behind: what it retires is refused from
its own time on, and what it has not released is not due yet. A queue stays settled when the clock
shows the same time once more or an earlier one, so that draining again does nothing, however often.
-/

namespace CloudCollector.Queue

/-- At `now`, no id has been refused for longer than the window, and every entry would be spared. -/
structure Settled (q : Queue) (now : Instant) : Prop where
  unexpired : ∀ id added, q.blacklist.get? id = some added →
    now.since added ≤ q.tuning.deleteBlacklist
  spared : ∀ id h, q.held.get? id = some h → q.spares now id h = true

namespace Settled

variable {q : Queue} {now : Instant} (hq : q.Settled now)

include hq

/-- Nothing is short-lived in a settled queue. -/
theorem shortlivedIds_eq : q.shortlivedIds = [] := by
  rw [List.eq_nil_iff_forall_not_mem]
  intro id hmem
  obtain ⟨h, hheld, hshort⟩ := mem_shortlivedIds_iff.mp hmem
  have hspared := hq.spared id h hheld
  simp [spares, hshort] at hspared

/-- Nothing is due in a settled queue. -/
theorem due_eq : q.due now = .empty := by
  apply Dict.ext_get?
  intro id
  rw [Dict.get?_empty, Option.eq_none_iff_forall_ne_some]
  intro h hdue
  obtain ⟨hheld, -, -, hisdue⟩ := get?_due_eq_some_iff.mp hdue
  rw [(spares_iff.mp (hq.spared id h hheld)).2] at hisdue
  exact Bool.false_ne_true hisdue

/-- Where no refused id has served its window, none is forgotten. -/
theorem unexpired_eq : q.unexpired now = q.blacklist :=
  Dict.filter_eq_self fun id added hadded => decide_eq_true (hq.unexpired id added hadded)

/-- A drain releases nothing from a settled queue and has nothing to report. -/
theorem drain_snd_eq : (q.drain now).2 = ({}, {}) := by
  have hrelease : (q.drain now).2.1 = {} := by
    rw [release_drain, hq.due_eq]
    rfl
  have hsuppressed : q.suppressedIds now = [] := by
    rw [List.eq_nil_iff_forall_not_mem]
    intro id hmem
    obtain ⟨h, hfound⟩ := Dict.mem_keys_iff.mp hmem
    rw [Dict.get?_filter, Option.filter_eq_some_iff, Bool.and_eq_true] at hfound
    obtain ⟨hheld, hrefused, -⟩ := hfound
    rw [(spares_iff.mp (hq.spared id h hheld)).1] at hrefused
    exact Bool.false_ne_true hrefused
  have hstats : (q.drain now).2.2 =
      { released := (q.drain now).2.1.size
        shortlived := q.shortlivedIds.length
        suppressed := (q.drain now).2.2.suppressed
        expired := q.blacklist.size - (q.unexpired now).size } := rfl
  refine Prod.ext hrelease ?_
  rw [hstats, suppressed_drain, hsuppressed, hrelease, hq.shortlivedIds_eq, hq.unexpired_eq,
    Nat.sub_self]
  rfl

/-- A drain leaves a settled queue as it is. -/
theorem drain_fst_eq : (q.drain now).1 = q := by
  have hqueue : (q.drain now).1 =
      { q with
        held := (q.drain now).1.held
        blacklist := ((q.unexpired now).insertAll q.shortlivedIds now).insertAll
          ((q.due now).filter fun _ h => h.record.deletes).keys now
        lastRelease := if 0 < (q.drain now).2.1.size then some now else q.lastRelease
        releasedTotal := q.releasedTotal + (q.drain now).2.1.size } := rfl
  have hheld : (q.drain now).1.held = q.held := by
    apply Dict.ext_get?
    intro id
    rw [get?_held_drain]
    cases hwaiting : q.held.get? id with
    | none => rfl
    | some h => rw [Option.filter_some, if_pos (hq.spared id h hwaiting)]
  rw [hqueue, hheld, hq.unexpired_eq, hq.shortlivedIds_eq, hq.due_eq, hq.drain_snd_eq]
  rfl

/-- A settled queue was settled at every earlier time, too. -/
theorem of_le {earlier : Instant} (h : earlier ≤ now) : q.Settled earlier := by
  refine ⟨fun id added hadded => ?_, fun id entry hheld => ?_⟩
  · exact Nat.le_trans (Instant.since_le_since h) (hq.unexpired id added hadded)
  · obtain ⟨hrefused, hdue⟩ := spares_iff.mp (hq.spared id entry hheld)
    refine spares_iff.mpr ⟨?_, ?_⟩
    · -- an id that is refused at an earlier time is still refused
      rw [← Bool.not_eq_true, refuses_iff] at hrefused ⊢
      rintro ⟨added, hadded, -⟩
      exact hrefused ⟨added, hadded, hq.unexpired id added hadded⟩
    · rw [← Bool.not_eq_true, isDue_iff, Instant.exists_add?_le_iff] at hdue ⊢
      refine fun hearlier => hdue (hearlier.imp_right fun hended => ?_)
      exact Int.le_trans hended h

end Settled

/-- A drain does nothing to a queue exactly when the queue is settled. -/
theorem drain_eq_self_iff {q : Queue} {now : Instant} :
    q.drain now = (q, {}, {}) ↔ q.Settled now := by
  constructor
  · intro hdrain
    refine ⟨fun id added hadded => ?_, fun id h hheld => ?_⟩
    · -- an id whose window is over would be counted as expired
      by_contra hover
      have hcount := q.expired_drain now
      rw [hdrain] at hcount
      have hnone := List.eq_nil_of_length_eq_zero hcount.symm
      have hexpired : (id, added) ∈ (q.blacklist.filter fun _ added =>
          !decide (now.since added ≤ q.tuning.deleteBlacklist)).entries := by
        rw [Dict.mem_entries_iff, Dict.get?_filter, Option.filter_eq_some_iff]
        exact ⟨hadded, by simpa using hover⟩
      rw [hnone] at hexpired
      exact List.not_mem_nil hexpired
    · have hstays : (q.drain now).1.held.get? id = some h := by rw [hdrain]; exact hheld
      rw [get?_held_drain, hheld, Option.filter_eq_some_iff] at hstays
      exact hstays.2
  · intro hq
    exact Prod.ext hq.drain_fst_eq hq.drain_snd_eq

/-- Every drain leaves a settled queue behind. -/
theorem Keyed.settled_drain {q : Queue} (hq : q.Keyed) (now : Instant) :
    (q.drain now).1.Settled now := by
  refine ⟨fun id added hadded => ?_, fun id h hheld => ?_⟩
  · by_cases hretires : q.Retires now id
    · rw [hq.get?_blacklist_of_retires hretires, Option.some.injEq] at hadded
      rw [← hadded, Instant.since_eq_zero (Int.le_refl _)]
      exact Nat.zero_le _
    · rw [hq.get?_blacklist_of_not_retires hretires, unexpired, Dict.get?_filter,
        Option.filter_eq_some_iff] at hadded
      exact of_decide_eq_true hadded.2
  · have hlisted := hq.isBlacklisted_drain_of_held ⟨h, hheld⟩
    refine spares_iff.mpr ⟨?_, (get?_held_drain_eq_some_iff.mp hheld).2.2.2⟩
    rw [← Bool.not_eq_true]
    intro hrefused
    rw [isBlacklisted_of_refuses hrefused] at hlisted
    cases hlisted

/-- Draining a settled queue again and again, at times that are not later, leaves it as it is and
releases nothing. -/
theorem Settled.after_drains {q : Queue} {now : Instant} (hq : q.Settled now)
    {times : List Instant} (h : ∀ time ∈ times, time ≤ now) :
    q.after (times.map .drain) = q ∧
      ∀ release ∈ q.releases (times.map .drain), release = {} := by
  induction times with
  | nil => exact ⟨rfl, fun release hrelease => absurd hrelease List.not_mem_nil⟩
  | cons time times ih =>
    obtain ⟨htime, htimes⟩ := List.forall_mem_cons.mp h
    have hsame : q.drain time = (q, {}, {}) := drain_eq_self_iff.mpr (hq.of_le htime)
    obtain ⟨hafter, hreleases⟩ := ih htimes
    rw [List.map_cons, after_cons, releases, perform, hsame]
    exact ⟨hafter, List.forall_mem_cons.mpr ⟨rfl, hreleases⟩⟩

/-- **Draining again does nothing.** In every queue that a run leads to, a drain that follows a
drain, with nothing in between and a clock that stands still or steps back, releases nothing, has
nothing to report, and leaves the whole queue as it was: what waits, the refused ids with their
times, when records were last released, and how many ever were. So do any number of such drains. -/
theorem drain_drain {q : Queue} (hq : q.Reachable) (now : Instant) :
    (∀ again, again ≤ now → (q.drain now).1.drain again = ((q.drain now).1, {}, {})) ∧
    ∀ times : List Instant, (∀ time ∈ times, time ≤ now) →
      (q.drain now).1.after (times.map .drain) = (q.drain now).1 ∧
        ∀ release ∈ (q.drain now).1.releases (times.map .drain), release = {} := by
  have hsettled : (q.drain now).1.Settled now := hq.keyed.settled_drain now
  refine ⟨fun again hagain => ?_, fun times htimes => hsettled.after_drains htimes⟩
  exact drain_eq_self_iff.mpr (hsettled.of_le hagain)

/-- A gateway is deleted, and its window ends when the queue is drained once more; meanwhile a route
comes and goes, a tunnel is created, a gateway is described too early, and a table is described
twice. -/
def gatewayCalls : List Call :=
  [.append (.ofSeconds 21000) { targetId := "gateway", lifecycle := .delete },
    .drain (.ofSeconds 21000),
    .append (.ofSeconds 21500) { targetId := "gateway", fields := .ofList [("name", .string "g")] },
    .append (.ofSeconds 21550) { targetId := "tunnel", lifecycle := .create },
    .append (.ofSeconds 21590) { targetId := "route", lifecycle := .create },
    .append (.ofSeconds 21590) { targetId := "table", fields := .ofList [("size", .string "8")] },
    .append (.ofSeconds 21595) { targetId := "route", lifecycle := .delete },
    .append (.ofSeconds 21595) { targetId := "peer", lifecycle := .delete },
    .append (.ofSeconds 21599) { targetId := "table", fields := .ofList [("size", .string "9")] }]

/-- The drain at the end of the window drops the gateway and the route, releases the tunnel and the
deletion, and keeps the table. The next one, at the same time or a minute earlier, finds nothing to
do. -/
theorem gateway_drained_once :
    let q := (fresh {}).after gatewayCalls
    let drained := q.drain (.ofSeconds 21600)
    drained.2.2 = { released := 2, shortlived := 1, suppressed := 1 } ∧
      drained.1.held.keys = ["table"] ∧ drained.1.blacklist.keys = ["gateway", "peer", "route"] ∧
      drained.1.drain (.ofSeconds 21600) = (drained.1, {}, {}) ∧
      drained.1.drain (.ofSeconds 21540) = (drained.1, {}, {}) := by
  intro q drained
  have hagain := (drain_drain ⟨{}, gatewayCalls, rfl⟩ (.ofSeconds 21600)).1
  refine ⟨by decide, by decide, by decide, ?_, ?_⟩
  · exact hagain (.ofSeconds 21600) (by decide)
  · exact hagain (.ofSeconds 21540) (by decide)

end CloudCollector.Queue
