import CloudCollector.Proofs.Queue.Coalescing
import Mathlib.Algebra.GroupWithZero.Nat

/-!
# Conservation of entries

A drain decides about every entry that waits, and in exactly one of five ways: it stays, it is
dropped as short-lived, it is suppressed, or it is released as a creation or as an update. The
counters of a drain are the sizes of these classes, although one of them is computed from a
difference of sizes. Along a run, every entry that was ever opened is therefore either still there
or counted by exactly one drain.
-/

namespace CloudCollector.Queue

/-- The ids of the entries that a drain suppresses: those that are refused and not short-lived. -/
def suppressedIds (q : Queue) (now : Instant) : List String :=
  (q.held.filter fun id h => q.refuses now id && !h.isShortlived).keys

/-- The ids of the entries by what becomes of them in a drain that releases `out`: they stay, are
short-lived, are suppressed, or are released as a creation or as an update. -/
def fates (q : Queue) (now : Instant) (out : Release) : List String :=
  (q.drain now).1.held.keys ++ q.shortlivedIds ++ q.suppressedIds now ++
    out.creates.map (·.targetId) ++ out.updates.map (·.targetId)

/-- What a drain reports accounts for what it does. -/
structure Accounts (q : Queue) (now : Instant) (out : Release) (stats : DrainStats) : Prop where
  /-- Every entry that waits has a fate. -/
  exhaustive : q.held.keys.Perm (q.fates now out)
  /-- No entry has two fates. -/
  disjoint : (q.fates now out).Nodup
  shortlived : stats.shortlived = q.shortlivedIds.length
  suppressed : stats.suppressed = (q.suppressedIds now).length
  /-- What is not admitted was short-lived or suppressed, so the difference by which suppressed
  entries are counted is not cut off. -/
  dropped : q.held.size = (q.admitted now).2.size + stats.shortlived + stats.suppressed
  released : stats.released = out.creates.length + out.links.length + out.updates.length
  expired : stats.expired =
    (q.blacklist.filter fun _ added => !decide (now.since added ≤ q.tuning.deleteBlacklist)).size
  /-- No entity is released twice. -/
  unrepeated : ((out.creates ++ out.updates).map (·.targetId)).Nodup
  /-- Nothing waits for a released entity. -/
  gone : ∀ r ∈ out.ordered, (q.drain now).1.held.get? r.targetId = none

/-- Before anything is released, an entry is dropped as short-lived, suppressed, or admitted. -/
theorem keys_held_perm (q : Queue) (now : Instant) :
    q.held.keys.Perm (q.shortlivedIds ++ q.suppressedIds now ++ (q.admitted now).2.keys) := by
  have hshort := q.held.keys_perm_filter fun _ h => h.isShortlived
  have hlong := (q.held.filter fun _ h => !h.isShortlived).keys_perm_filter
    fun id _ => q.refuses now id
  have hadmitted : ((q.held.filter fun _ h => !h.isShortlived).filter
      fun id _ => !q.refuses now id) = (q.admitted now).2 := by
    apply Dict.ext_get?
    intro id
    rw [Dict.filter_filter, Dict.get?_filter, get?_admitted]
  rw [Dict.filter_filter, hadmitted] at hlong
  rw [List.append_assoc]
  exact hshort.trans (hlong.append_left _)

/-- What is admitted is due or stays. -/
theorem keys_admitted_perm (q : Queue) (now : Instant) :
    (q.admitted now).2.keys.Perm ((q.due now).keys ++ (q.drain now).1.held.keys) :=
  (q.admitted now).2.keys_perm_filter fun _ h => isDue q.tuning now h

/-- What is due is released once, as a creation or as an update. -/
theorem Keyed.keys_due_perm {q : Queue} (hq : q.Keyed) {now : Instant} {out : Release}
    (hout : out.Rearranges (q.drain now).2.1) :
    (q.due now).keys.Perm (out.creates.map (·.targetId) ++ out.updates.map (·.targetId)) := by
  have hkeys : (q.due now).keys = ((q.due now).values.map (·.record)).map (·.targetId) := by
    rw [Dict.keys, Dict.values, List.map_map, List.map_map]
    refine List.map_congr_left fun entry hentry => ?_
    exact (hq.due now entry.1 entry.2 (Dict.mem_entries_iff.mp hentry)).symm
  have hgroup : ((q.due now).values.map (·.record)).Perm
      ((group (q.due now)).creates ++ (group (q.due now)).updates) :=
    (List.filter_append_perm _ _).symm
  have hcreates : ((group (q.due now)).creates.map (·.targetId)).Perm
      (out.creates.map (·.targetId)) := by
    have hsplit := hout.creates.symm.map (·.targetId)
    rw [release_drain, Release.split_eq rfl, List.map_map] at hsplit
    exact hsplit
  have hupdates : ((group (q.due now)).updates.map (·.targetId)).Perm
      (out.updates.map (·.targetId)) := by
    have hsplit := hout.updates.symm.map (·.targetId)
    rwa [release_drain, Release.split_eq rfl] at hsplit
  rw [hkeys]
  refine (hgroup.map (·.targetId)).trans ?_
  rw [List.map_append]
  exact hcreates.append hupdates

/-- What a drain counts as suppressed, and what it counts as short-lived, are all entries that it
does not admit. -/
theorem size_held_eq (q : Queue) (now : Instant) :
    q.held.size = q.shortlivedIds.length + (q.suppressedIds now).length +
      (q.admitted now).2.size := by
  have hlength := (q.keys_held_perm now).length_eq
  rwa [List.length_append, List.length_append, Dict.length_keys, Dict.length_keys] at hlength

/-- What a drain counts as suppressed are the entries that it suppresses. -/
theorem suppressed_drain (q : Queue) (now : Instant) :
    (q.drain now).2.2.suppressed = (q.suppressedIds now).length := by
  have hsize := q.size_held_eq now
  have hcount : (q.drain now).2.2.suppressed =
      q.held.size - (q.admitted now).2.size - q.shortlivedIds.length := rfl
  omega

/-- What a drain counts as expired are the ids that it no longer refuses. -/
theorem expired_drain (q : Queue) (now : Instant) :
    (q.drain now).2.2.expired = (q.blacklist.filter fun _ added =>
      !decide (now.since added ≤ q.tuning.deleteBlacklist)).size := by
  have hsize := q.blacklist.size_eq_add_filter fun _ added =>
    decide (now.since added ≤ q.tuning.deleteBlacklist)
  have hcount : (q.drain now).2.2.expired = q.blacklist.size - (q.unexpired now).size := rfl
  rw [hcount, hsize, unexpired]
  omega

/-- Every entry that waits has exactly one fate. -/
theorem Keyed.keys_held_perm_fates {q : Queue} (hq : q.Keyed) {now : Instant} {out : Release}
    (hout : out.Rearranges (q.drain now).2.1) : q.held.keys.Perm (q.fates now out) := by
  have hadmitted : (q.admitted now).2.keys.Perm ((q.drain now).1.held.keys ++
      (out.creates.map (·.targetId) ++ out.updates.map (·.targetId))) :=
    (q.keys_admitted_perm now).trans
      (List.perm_append_comm.trans ((hq.keys_due_perm hout).append_left _))
  have hwaiting := (q.keys_held_perm now).trans (hadmitted.append_left _)
  refine hwaiting.trans ?_
  rw [fates, ← List.append_assoc, ← List.append_assoc]
  refine List.Perm.append_right _ (List.Perm.append_right _ ?_)
  rw [List.append_assoc (q.drain now).1.held.keys]
  exact List.perm_append_comm

/-- A drain accounts for every entry, whatever the arrangement of what it releases. -/
theorem Keyed.accounts {q : Queue} (hq : q.Keyed) {now : Instant} {out : Release}
    (hout : out.Rearranges (q.drain now).2.1) : q.Accounts now out (q.drain now).2.2 := by
  have hfates := hq.keys_held_perm_fates hout
  have hdistinct : (q.fates now out).Nodup := hfates.nodup_iff.mp q.held.nodup_keys
  have hshort : (q.drain now).2.2.shortlived = q.shortlivedIds.length := rfl
  refine ⟨hfates, hdistinct, hshort, q.suppressed_drain now, ?_, ?_, q.expired_drain now, ?_, ?_⟩
  · have hsize := q.size_held_eq now
    rw [hshort, q.suppressed_drain now]
    omega
  · rw [hout.creates.length_eq, hout.links.length_eq, hout.updates.length_eq]
    rfl
  · rw [fates, List.append_assoc, ← List.map_append] at hdistinct
    exact (List.nodup_append.mp hdistinct).2.1
  · intro r hr
    have hrecords : r ∈ out.recordsOf r.targetId := List.mem_filter.mpr ⟨hr, by simp⟩
    obtain ⟨h, hdue⟩ := (hq.exists_mem_recordsOf_iff hout).mp ⟨r, hrecords⟩
    have hgone := (departs_of_due hdue).2
    rwa [Dict.contains_eq_isSome, Option.isSome_eq_false_iff, Option.isNone_iff_eq_none] at hgone

/-! ## Runs -/

/-- What a drain of a run reports, with its time. -/
structure DrainReport where
  time : Instant
  release : Release
  stats : DrainStats

/-- How many entries of the queue a drain ended. -/
def DrainReport.ended (report : DrainReport) : Nat :=
  report.stats.shortlived + report.stats.suppressed + report.release.creates.length +
    report.release.updates.length

/-- What a call reports if it is a drain. -/
def report? (q : Queue) (call : Call) : Option DrainReport :=
  call.drainTime?.map fun now => ⟨now, (q.drain now).2.1, (q.drain now).2.2⟩

/-- What the drains of a run report, one after the other. -/
def reports (q : Queue) : List Call → List DrainReport
  | [] => []
  | call :: rest => (q.report? call).toList ++ (q.perform call).reports rest

/-- Whether a call opens an entry: it appends a record of an entity for which nothing waits. -/
def opens (q : Queue) (call : Call) : Bool :=
  call.record?.any fun r => !q.held.contains r.targetId

/-- How many calls of a run open an entry. -/
def openings (q : Queue) : List Call → Nat
  | [] => 0
  | call :: rest => (q.opens call).toNat + (q.perform call).openings rest

/-- The report of the last call comes last. -/
theorem reports_concat (q : Queue) (calls : List Call) (call : Call) :
    q.reports (calls ++ [call]) = q.reports calls ++ ((q.after calls).report? call).toList := by
  induction calls generalizing q with
  | nil => simp [reports]
  | cons first rest ih => simp [reports, ih, after_cons]

/-- The last call opens an entry more, or none. -/
theorem openings_concat (q : Queue) (calls : List Call) (call : Call) :
    q.openings (calls ++ [call]) = q.openings calls + ((q.after calls).opens call).toNat := by
  induction calls generalizing q with
  | nil => simp [openings]
  | cons first rest ih => simp [openings, ih, after_cons, Nat.add_assoc]

/-- What waits before a call, and what it opens, waits after it or is reported as ended. -/
theorem Keyed.size_held_perform {q : Queue} (hq : q.Keyed) {call : Call} (hreset : call ≠ .reset) :
    q.held.size + (q.opens call).toNat =
      (q.perform call).held.size + ((q.report? call).toList.map (·.ended)).sum := by
  cases call with
  | append now r =>
    have hopens : q.opens (.append now r) = !q.held.contains r.targetId := rfl
    have hsize : (q.perform (.append now r)).held.size =
        q.held.size + (!q.held.contains r.targetId).toNat := Dict.size_insert _ _ _
    rw [hopens, hsize]
    rfl
  | setTuning tuning => rfl
  | drain now =>
    have haccounts := hq.accounts (Release.Rearranges.refl (q.drain now).2.1)
    have hlength := haccounts.exhaustive.length_eq
    simp only [fates, List.length_append, List.length_map, Dict.length_keys] at hlength
    have hreport : ((q.report? (.drain now)).toList.map (·.ended)).sum =
        (q.drain now).2.2.shortlived + (q.drain now).2.2.suppressed +
          (q.drain now).2.1.creates.length + (q.drain now).2.1.updates.length := by
      simp [report?, Call.drainTime?, DrainReport.ended]
    have hopens : q.opens (.drain now) = false := rfl
    rw [hopens, Bool.toNat_false, hreport, haccounts.shortlived, haccounts.suppressed,
      Queue.perform]
    omega
  | reset => exact absurd rfl hreset

/-- Along a run without resets, every entry that was opened waits or is reported as ended. -/
theorem openings_eq (tuning : Tuning) {calls : List Call} (hreset : Call.reset ∉ calls) :
    (fresh tuning).openings calls = ((fresh tuning).after calls).held.size +
      (((fresh tuning).reports calls).map (·.ended)).sum := by
  induction calls using List.reverseRecOn with
  | nil => rfl
  | append_singleton calls call ih =>
    rw [List.mem_append, List.mem_singleton, not_or] at hreset
    have hbefore := ih hreset.1
    have hstep := ((keyed_fresh tuning).after calls).size_held_perform (Ne.symm hreset.2)
    rw [openings_concat, reports_concat, after_concat, List.map_append, List.sum_append]
    omega

/-- The last report of a drain that released something. -/
def lastReleasing (reports : List DrainReport) : Option DrainReport :=
  (reports.filter fun report => 0 < report.stats.released).getLast?

/-- The last report that released anything is the last one, if it did, or else the one before. -/
theorem lastReleasing_concat (reports : List DrainReport) (report : DrainReport) :
    lastReleasing (reports ++ [report]) =
      if 0 < report.stats.released then some report else lastReleasing reports := by
  rw [lastReleasing, List.filter_append]
  split
  · next hreleased => rw [List.filter_cons_of_pos (by simpa using hreleased)]; simp
  · next hreleased => rw [List.filter_cons_of_neg (by simpa using hreleased)]; simp [lastReleasing]

/-- A queue adds up what its drains report as released, and remembers when that last was anything,
even if it is reset. -/
theorem released_after (tuning : Tuning) (calls : List Call) :
    ((fresh tuning).after calls).releasedTotal =
        (((fresh tuning).reports calls).map (·.stats.released)).sum ∧
      ((fresh tuning).after calls).lastRelease =
        (lastReleasing ((fresh tuning).reports calls)).map (·.time) := by
  induction calls using List.reverseRecOn with
  | nil => exact ⟨rfl, rfl⟩
  | append_singleton calls call ih =>
    rw [after_concat, reports_concat]
    cases hreport : ((fresh tuning).after calls).report? call with
    | none =>
      rw [Option.toList_none, List.append_nil]
      cases call with
      | drain now => cases hreport
      | append now r => exact ih
      | setTuning tuning => exact ih
      | reset => exact ih
    | some report =>
      obtain ⟨htotal, hlast⟩ := ih
      obtain ⟨now, hdrain, rfl⟩ := Option.map_eq_some_iff.mp hreport
      rw [Call.drainTime?_eq_some_iff.mp hdrain, Option.toList_some, List.map_append,
        List.sum_append, lastReleasing_concat, ← htotal, apply_ite (Option.map _), ← hlast]
      exact ⟨rfl, rfl⟩

/-- **Conservation of entries.** After any run of a queue, a drain gives every entry that waits
exactly one of five fates, and its counters are the numbers of entries of each fate, whatever the
arrangement of what it releases. Along a run without resets, every entry that was opened either
waits or was ended by one of the drains; and the queue has counted what they released and remembers
the last of them that released anything. -/
theorem entries_conserved (tuning : Tuning) (calls : List Call) :
    (∀ now (out : Release), out.Rearranges (((fresh tuning).after calls).drain now).2.1 →
      ((fresh tuning).after calls).Accounts now out (((fresh tuning).after calls).drain now).2.2) ∧
    (Call.reset ∉ calls →
      (fresh tuning).openings calls = ((fresh tuning).after calls).held.size +
        (((fresh tuning).reports calls).map (·.ended)).sum) ∧
    ((fresh tuning).after calls).releasedTotal =
      (((fresh tuning).reports calls).map (·.stats.released)).sum ∧
    ((fresh tuning).after calls).lastRelease =
      (lastReleasing ((fresh tuning).reports calls)).map (·.time) := by
  refine ⟨fun now out hout => ?_, openings_eq tuning, released_after tuning calls⟩
  exact ((keyed_fresh tuning).after calls).accounts hout

/-- A rack is deleted and described once more, a port comes and goes, two hosts that refer to each
other are created, and a zone and a disk are described, the disk late. -/
def rackCalls : List Call :=
  [.append (.ofSeconds 11000) { targetId := "rack", lifecycle := .delete },
    .drain (.ofSeconds 11000),
    .append (.ofSeconds 11001) { targetId := "rack", fields := .ofList [("name", .string "r")] },
    .append (.ofSeconds 11001) { targetId := "port", lifecycle := .create },
    .append (.ofSeconds 11002)
      { targetId := "left", lifecycle := .create
        fields := .ofList [("set_peer", .string "right")] },
    .append (.ofSeconds 11002)
      { targetId := "right", lifecycle := .create
        fields := .ofList [("set_peer", .string "left")] },
    .append (.ofSeconds 11003) { targetId := "port", lifecycle := .delete },
    .append (.ofSeconds 11003) { targetId := "zone", fields := .ofList [("name", .string "z")] },
    .append (.ofSeconds 11040) { targetId := "disk" }]

/-- A drain of this queue meets every fate, and after it none of the seven entries is unaccounted
for. -/
theorem rack_conserved :
    let q := (fresh {}).after rackCalls
    let out := (q.drain (.ofSeconds 11043)).2.1
    let after := (fresh {}).after (rackCalls ++ [.drain (.ofSeconds 11043)])
    q.held.keys.Perm (["disk"] ++ ["port"] ++ ["rack"] ++ ["left", "right"] ++ ["zone"]) ∧
      (q.drain (.ofSeconds 11043)).2.2.released = out.creates.length + 2 + out.updates.length ∧
      7 = after.held.size + (1 + 5) ∧ after.releasedTotal = 1 + 5 := by
  intro q out after
  have haccounts := (entries_conserved {} rackCalls).1 (.ofSeconds 11043) out (.refl out)
  obtain ⟨-, hopened, htotal, -⟩ :=
    entries_conserved {} (rackCalls ++ [.drain (.ofSeconds 11043)])
  have hfates : q.fates (.ofSeconds 11043) out =
      ["disk"] ++ ["port"] ++ ["rack"] ++ ["left", "right"] ++ ["zone"] := by decide
  have hlinks : out.links.length = 2 := by decide
  have hseven : (fresh {}).openings (rackCalls ++ [.drain (.ofSeconds 11043)]) = 7 := by decide
  have hended : (((fresh {}).reports (rackCalls ++ [.drain (.ofSeconds 11043)])).map
      (·.ended)).sum = 1 + 5 := by decide
  have hreleased : (((fresh {}).reports (rackCalls ++ [.drain (.ofSeconds 11043)])).map
      (·.stats.released)).sum = 1 + 5 := by decide
  refine ⟨hfates ▸ haccounts.exhaustive, hlinks ▸ haccounts.released, ?_, hreleased ▸ htotal⟩
  rw [← hseven, hopened (by decide), hended]

end CloudCollector.Queue
