import CloudCollector.Proofs.Queue.Retirement
import Mathlib.Data.List.Induction

/-!
# How long an id stays blacklisted

Between two drains that retire an id, the blacklist is decided by the times of the drains alone:
the id stays blacklisted as long as every drain comes within the window, in force at that drain,
since the retirement. Such drains drop what waits under the id. The first drain that comes later
forgets the id before it judges what waits, and no later one drops anything for it.
-/

namespace CloudCollector.Queue

/-- Every drain among the calls comes within the window, in force at that drain, since an id was
retired. -/
def DrainsWithin (q : Queue) (retired : Instant) (calls : List Call) : Prop :=
  EachDrain calls fun earlier now => now.since retired ≤ (q.after earlier).tuning.deleteBlacklist

instance (q : Queue) (retired : Instant) (calls : List Call) :
    Decidable (q.DrainsWithin retired calls) :=
  inferInstanceAs (Decidable (EachDrain _ _))

/-- A drain drops an entry of the id that is not short-lived: the entry neither stays, nor is
anything of its entity released. -/
def Suppresses (q : Queue) (now : Instant) (id : String) : Prop :=
  ∃ h, q.held.get? id = some h ∧ h.isShortlived = false ∧
    (q.drain now).1.held.get? id = none ∧ (q.drain now).2.1.recordsOf id = []

/-- A call that does not retire an id keeps it blacklisted, unless it is a drain after the window
since the id was retired. -/
theorem Keyed.get?_blacklist_perform_iff {q : Queue} (hq : q.Keyed) {id : String} {call : Call}
    (hreset : call ≠ .reset) (hretires : ∀ now ∈ call.drainTime?, ¬q.Retires now id)
    {retired : Instant} :
    (q.perform call).blacklist.get? id = some retired ↔ q.blacklist.get? id = some retired ∧
      ∀ now ∈ call.drainTime?, now.since retired ≤ q.tuning.deleteBlacklist := by
  cases call with
  | drain now =>
    rw [Queue.perform, hq.get?_blacklist_of_not_retires (hretires now rfl), unexpired,
      Dict.get?_filter, Option.filter_eq_some_iff]
    simp [Call.drainTime?]
  | append now r =>
    have hkept : (q.perform (.append now r)).blacklist = q.blacklist := rfl
    simp [hkept, Call.drainTime?]
  | setTuning tuning =>
    have hkept : (q.perform (.setTuning tuning)).blacklist = q.blacklist := rfl
    simp [hkept, Call.drainTime?]
  | reset => exact absurd rfl hreset

/-- Along a run that does not retire an id, it stays blacklisted exactly as long as every drain
comes within the window. -/
theorem Keyed.get?_blacklist_after_iff {q : Queue} (hq : q.Keyed) {id : String}
    {calls : List Call} (hreset : Call.reset ∉ calls) (hnever : q.NeverRetires id calls)
    {retired : Instant} :
    (q.after calls).blacklist.get? id = some retired ↔
      q.blacklist.get? id = some retired ∧ q.DrainsWithin retired calls := by
  induction calls using List.reverseRecOn with
  | nil => exact (and_iff_left (eachDrain_nil _)).symm
  | append_singleton calls call ih =>
    obtain ⟨hbefore, hlast⟩ := eachDrain_concat_iff.mp (neverRetires_iff.mp hnever)
    rw [List.mem_append, List.mem_singleton, not_or] at hreset
    rw [after_concat, (hq.after calls).get?_blacklist_perform_iff (Ne.symm hreset.2) hlast,
      ih hreset.1 hbefore, and_assoc]
    exact and_congr_right fun _ => eachDrain_concat_iff.symm

/-- A drain drops whatever waits under an id that it refuses. -/
theorem Keyed.drops_of_refuses {q : Queue} (hq : q.Keyed) {now : Instant} {id : String}
    {out : Release} (hout : out.Rearranges (q.drain now).2.1) (hrefused : q.refuses now id = true) :
    out.recordsOf id = [] ∧ (q.drain now).1.held.get? id = none := by
  have hdue : (q.due now).get? id = none := by
    rw [get?_due, hrefused]
    simp
  refine ⟨by rw [hq.recordsOf_drain hout, hdue, Option.elim_none], ?_⟩
  rw [get?_held_drain]
  simp [spares, hrefused]

/-- A drain suppresses nothing under an id that it does not refuse. -/
theorem Keyed.not_suppresses_of_not_refuses {q : Queue} (hq : q.Keyed) {now : Instant}
    {id : String} (hrefused : q.refuses now id = false) : ¬q.Suppresses now id := by
  rintro ⟨h, hheld, hlong, hgone, hnothing⟩
  rcases fate_of_not_refused hheld hrefused with ⟨hshort, _⟩ | ⟨_, hdue, _⟩ | ⟨_, _, hstays⟩
  · rw [hlong] at hshort
    cases hshort
  · obtain ⟨r, hr⟩ := (hq.exists_mem_recordsOf_iff (.refl _)).mpr ⟨h, hdue⟩
    rw [hnothing] at hr
    cases hr
  · rw [hgone] at hstays
    cases hstays

/-- An id that a drain refuses is blacklisted after it. -/
theorem Keyed.isBlacklisted_drain_of_refuses {q : Queue} (hq : q.Keyed) {now : Instant}
    {id : String} (hrefused : q.refuses now id = true) :
    (q.drain now).1.isBlacklisted id = true := by
  rw [isBlacklisted, Dict.contains_eq_isSome]
  by_cases hretires : q.Retires now id
  · rw [hq.get?_blacklist_of_retires hretires, Option.isSome_some]
  · rw [hq.get?_blacklist_of_not_retires hretires]
    exact hrefused

section Since

variable {q : Queue} (hq : q.Keyed) {id : String} {retired : Instant} {since : List Call}
  (hreset : Call.reset ∉ since) (hretires : q.Retires retired id)
  (hlast : (q.drain retired).1.NeverRetires id since)

include hq hreset hretires hlast

/-- After the drain that retired an id last, it stays blacklisted since then exactly as long as
every drain comes within the window. -/
theorem get?_blacklist_after_retires_iff {added : Instant} :
    ((q.drain retired).1.after since).blacklist.get? id = some added ↔
      retired = added ∧ (q.drain retired).1.DrainsWithin retired since := by
  have hkeyed : (q.drain retired).1.Keyed := hq.perform (.drain retired)
  rw [hkeyed.get?_blacklist_after_iff hreset hlast, hq.get?_blacklist_of_retires hretires,
    Option.some.injEq]
  exact and_congr_right fun heq => heq ▸ Iff.rfl

/-- After the drain that retired an id last, a drain refuses the id exactly if that drain and all
before it come within the window. -/
theorem refuses_after_retires_iff (now : Instant) :
    ((q.drain retired).1.after since).refuses now id = true ↔
      (q.drain retired).1.DrainsWithin retired since ∧
        now.since retired ≤ ((q.drain retired).1.after since).tuning.deleteBlacklist := by
  simp only [refuses_iff, get?_blacklist_after_retires_iff hq hreset hretires hlast, and_assoc,
    exists_eq_left']

end Since

/-- **The blacklist is exact.** Along a run without resets, an id that no drain has retired is not
blacklisted. Otherwise let `retired` be the time of the drain that retired it last. The id is
blacklisted exactly as long as every drain since then came within the window. If the next drain
does so too, then it releases nothing of the entity, in whatever arrangement, leaves nothing
waiting for it, and the id stays blacklisted. If that drain or an earlier one comes later, the id
is forgotten when the drain judges what waits, and nothing is suppressed. -/
theorem blacklist_exact (tuning : Tuning) (id : String) {calls : List Call}
    (hreset : Call.reset ∉ calls) :
    ((fresh tuning).NeverRetires id calls →
      ((fresh tuning).after calls).isBlacklisted id = false) ∧
    ∀ before retired since, calls = before ++ .drain retired :: since →
      ((fresh tuning).after before).Retires retired id →
      ((fresh tuning).after (before ++ [.drain retired])).NeverRetires id since →
      (((fresh tuning).after calls).isBlacklisted id = true ↔
        ((fresh tuning).after (before ++ [.drain retired])).DrainsWithin retired since) ∧
      ∀ now (out : Release), out.Rearranges (((fresh tuning).after calls).drain now).2.1 →
        if ((fresh tuning).after (before ++ [.drain retired])).DrainsWithin retired since ∧
            now.since retired ≤ ((fresh tuning).after calls).tuning.deleteBlacklist then
          out.recordsOf id = [] ∧
            (((fresh tuning).after calls).drain now).1.held.get? id = none ∧
            (((fresh tuning).after calls).drain now).1.isBlacklisted id = true
        else
          ((fresh tuning).after calls).refuses now id = false ∧
            ¬((fresh tuning).after calls).Suppresses now id := by
  constructor
  · intro hnever
    rw [isBlacklisted, Dict.contains_eq_isSome, Option.isSome_eq_false_iff,
      Option.isNone_iff_eq_none, Option.eq_none_iff_forall_ne_some]
    intro added hadded
    obtain ⟨hfresh, -⟩ :=
      ((keyed_fresh tuning).get?_blacklist_after_iff hreset hnever).mp hadded
    cases hfresh
  · rintro before retired since rfl hretires hlast
    have hafter : (fresh tuning).after (before ++ .drain retired :: since) =
        (((fresh tuning).after before).drain retired).1.after since := after_append _ _ _
    have hsince : Call.reset ∉ since := fun hmem =>
      hreset (List.mem_append_right before (List.mem_cons_of_mem _ hmem))
    have hbefore := (keyed_fresh tuning).after before
    have hkeyed := (keyed_fresh tuning).after (before ++ .drain retired :: since)
    rw [after_concat] at hlast ⊢
    have hrefuses := refuses_after_retires_iff hbefore hsince hretires hlast
    rw [hafter] at hkeyed ⊢
    refine ⟨?_, ?_⟩
    · simp only [isBlacklisted, Dict.contains_eq_isSome, Option.isSome_iff_exists,
        get?_blacklist_after_retires_iff hbefore hsince hretires hlast, exists_eq_left']
      rfl
    · intro now out hout
      split
      · next hwithin =>
        have hrefused := (hrefuses now).mpr hwithin
        obtain ⟨hnothing, hgone⟩ := hkeyed.drops_of_refuses hout hrefused
        exact ⟨hnothing, hgone, hkeyed.isBlacklisted_drain_of_refuses hrefused⟩
      · next hwithin =>
        have hfree := Bool.eq_false_iff.mpr fun hrefused => hwithin ((hrefuses now).mp hrefused)
        exact ⟨hfree, hkeyed.not_suppresses_of_not_refuses hfree⟩

/-- A switch is deleted at 9000 s, reported once more at 9200 s, and once more after the window was
made shorter. The drain in between drops the first report. -/
def switchCalls : List Call :=
  [.append (.ofSeconds 8990) { targetId := "switch", lifecycle := .delete },
    .drain (.ofSeconds 9000),
    .append (.ofSeconds 9200) { targetId := "switch", fields := .ofList [("ports", .string "8")] },
    .drain (.ofSeconds 9300),
    .setTuning { deleteBlacklist := .ofSeconds 400 },
    .append (.ofSeconds 9350) { targetId := "switch", fields := .ofList [("ports", .string "16")] }]

/-- With a window of 400 s, a drain at 9400 s drops what waits for the switch, and one second later
none does. -/
theorem switch_suppressed_within_window :
    let q := (fresh {}).after switchCalls
    q.isBlacklisted "switch" = true ∧
      (q.drain (.ofSeconds 9400)).1.held.get? "switch" = none ∧
      ¬q.Suppresses (.ofSeconds 9401) "switch" := by
  intro q
  have hreset : Call.reset ∉ switchCalls := by decide
  obtain ⟨hlisted, hnext⟩ := (blacklist_exact {} "switch" hreset).2
    [.append (.ofSeconds 8990) { targetId := "switch", lifecycle := .delete }] (.ofSeconds 9000)
    (switchCalls.drop 2) rfl (by decide) (by decide)
  have hwithin := hnext (.ofSeconds 9400) _ (.refl _)
  have hafter := hnext (.ofSeconds 9401) _ (.refl _)
  rw [if_pos (by decide)] at hwithin
  rw [if_neg (by decide)] at hafter
  exact ⟨hlisted.mpr (by decide), hwithin.2.1, hafter.2⟩

end CloudCollector.Queue
