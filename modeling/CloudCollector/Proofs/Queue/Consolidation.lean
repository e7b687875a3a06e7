import CloudCollector.Proofs.Model
import CloudCollector.Proofs.Queue.Retirement
import Mathlib.Data.List.Forall2
import Mathlib.Data.List.Induction

/-!
# Consolidation preserves meaning

A queue merges, holds back, splits and drops records, and yet a model that takes its releases
ends up as a model that takes every record at once. This needs records that follow the lives of
their entities, and a run after which nothing waits. The argument keeps, for one entity, the
difference between the two models: it is what waits for the entity.
-/

namespace CloudCollector

/-- The records of an entity follow its life: only the first may create it, and only where it is
not yet known, and only the last may delete it. -/
structure Orderly (known : Bool) (records : List Record) : Prop where
  unknown_of_creates : ∀ r ∈ records.head?, r.creates = true → known = false
  not_creates : ∀ r ∈ records.tail, r.creates = false
  not_deletes : ∀ r ∈ records.dropLast, r.deletes = false

instance (known : Bool) (records : List Record) : Decidable (Orderly known records) :=
  decidable_of_iff
    ((∀ r ∈ records.head?, r.creates = true → known = false) ∧
      (∀ r ∈ records.tail, r.creates = false) ∧ ∀ r ∈ records.dropLast, r.deletes = false)
    ⟨fun h => ⟨h.1, h.2.1, h.2.2⟩, fun h => ⟨h.1, h.2, h.3⟩⟩

/-- Before its last record, an orderly life has not ended, and a creation can only begin it. -/
theorem Orderly.of_concat {known : Bool} {records : List Record} {r : Record}
    (h : Orderly known (records ++ [r])) :
    Orderly known records ∧ (∀ p ∈ records, p.deletes = false) ∧
      (r.creates = true → records = [] ∧ known = false) := by
  have hnot : ∀ p ∈ records, p.deletes = false := by
    intro p hp
    exact h.not_deletes p (by rwa [List.dropLast_concat])
  cases records with
  | nil =>
    refine ⟨⟨?_, ?_, ?_⟩, hnot, fun hcreates => ⟨rfl, h.unknown_of_creates r rfl hcreates⟩⟩
    · intro p hp
      cases hp
    · intro p hp
      cases hp
    · intro p hp
      cases hp
  | cons first rest =>
    refine ⟨⟨h.unknown_of_creates, ?_, ?_⟩, hnot, ?_⟩
    · intro p hp
      exact h.not_creates p (List.mem_append_left [r] hp)
    · intro p hp
      exact hnot p (List.dropLast_subset _ hp)
    · intro hcreates
      have hlater := h.not_creates r (List.mem_append_right rest List.mem_cons_self)
      rw [hlater] at hcreates
      exact absurd hcreates Bool.false_ne_true

/-- An orderly life was orderly at every earlier point. -/
theorem Orderly.of_append {known : Bool} {first second : List Record}
    (h : Orderly known (first ++ second)) : Orderly known first := by
  induction second using List.reverseRecOn with
  | nil => rwa [List.append_nil] at h
  | append_singleton second r ih => exact ih (List.append_assoc first second [r] ▸ h).of_concat.1

namespace Queue

/-- The records that a run releases for one entity. -/
def releasedTo (q : Queue) (id : String) (calls : List Call) : List Record :=
  (q.releases calls).flatMap fun release => release.recordsOf id

/-- What the last call releases of an entity comes last. -/
theorem releasedTo_concat (q : Queue) (id : String) (calls : List Call) (call : Call) :
    q.releasedTo id (calls ++ [call]) =
      q.releasedTo id calls ++ (q.after calls).releasedTo id [call] := by
  rw [releasedTo, releases_append, List.flatMap_append]
  rfl

/-- Whatever the arrangement of the releases, the records for one entity are the same. -/
theorem Keyed.flatMap_recordsOf_eq {q : Queue} (hq : q.Keyed) {calls : List Call}
    {batches : List Release} (h : List.Forall₂ Release.Rearranges batches (q.releases calls))
    (id : String) :
    (batches.flatMap fun batch => batch.recordsOf id) = q.releasedTo id calls := by
  induction calls generalizing q batches with
  | nil =>
    rw [releases, List.forall₂_nil_right_iff] at h
    rw [h]
    rfl
  | cons call rest ih =>
    cases call with
    | drain now =>
      obtain ⟨batch, later, hbatch, hlater, rfl⟩ := List.forall₂_cons_right_iff.mp h
      have hrest := ih (hq.perform (.drain now)) hlater
      have hfirst := hbatch.recordsOf_eq (hq.single_drain (.refl _)) id
      rw [List.flatMap_cons, hrest, hfirst]
      rfl
    | append now r => exact ih (hq.perform (.append now r)) h
    | setTuning tuning => exact ih (hq.perform (.setTuning tuning)) h
    | reset => exact ih (hq.perform .reset) h

/-- Whether all lives in a run are orderly depends on the entities with records only. -/
theorem orderly_appendedTo_of_mem {model : Model} {calls : List Call}
    (h : ∀ r ∈ appended calls,
      Orderly (model.contains r.targetId) (appendedTo r.targetId calls)) (id : String) :
    Orderly (model.contains id) (appendedTo id calls) := by
  by_cases hid : ∃ r ∈ appended calls, r.targetId = id
  · obtain ⟨r, hr, rfl⟩ := hid
    exact h r hr
  · have hnone : appendedTo id calls = [] := by
      rw [appendedTo, List.filter_eq_nil_iff]
      intro r hr htarget
      exact hid ⟨r, hr, of_decide_eq_true htarget⟩
    rw [hnone]
    exact ⟨by simp, by simp, by simp⟩

/-- How two models of one entity compare at a point of a run: `arrived` are the records of the
entity so far, `initial` what the models had of it at first, and `stored` what the model that
takes the releases has of it now. -/
structure Lags (q : Queue) (id : String) (arrived : List Record)
    (initial stored : Option (Dict Json)) : Prop where
  /-- Applied to what is stored, what waits gives what all records give at once. -/
  pending : Record.applyEach arrived initial =
    (q.held.get? id).elim stored fun h => h.record.applyTo stored
  /-- A creation waits only for an entity that is not stored. -/
  absent : ∀ h, q.held.get? id = some h → h.record.creates = true → stored = none
  /-- A deletion waits only after one has arrived. -/
  ended : ∀ h, q.held.get? id = some h → h.record.deletes = true →
    ∃ r ∈ arrived, r.deletes = true
  /-- Nothing waits under a blacklisted id, and its entity was deleted. -/
  blacklisted : q.isBlacklisted id = true →
    q.held.get? id = none ∧ ∃ r ∈ arrived, r.deletes = true
  /-- Nothing has happened to the entity before its first record. -/
  unseen : arrived = [] → q.held.get? id = none ∧ stored = initial

/-- Where nothing waits, the model that takes the releases has caught up. -/
theorem lags_of_none {q : Queue} {id : String} {arrived : List Record}
    {initial stored : Option (Dict Json)} (hnone : q.held.get? id = none)
    (hstored : Record.applyEach arrived initial = stored)
    (hblacklisted : q.isBlacklisted id = true → ∃ r ∈ arrived, r.deletes = true) :
    Lags q id arrived initial stored where
  pending := by rw [hnone, hstored, Option.elim_none]
  absent h hheld := by
    rw [hnone] at hheld
    cases hheld
  ended h hheld := by
    rw [hnone] at hheld
    cases hheld
  blacklisted hlisted := ⟨hnone, hblacklisted hlisted⟩
  unseen hnil := by
    subst hnil
    exact ⟨hnone, hstored.symm⟩

/-- Before a run the two models are the same. -/
theorem lags_fresh (tuning : Tuning) (id : String) (initial : Option (Dict Json)) :
    Lags (fresh tuning) id [] initial initial := by
  refine lags_of_none rfl rfl fun hlisted => ?_
  cases hlisted

section Step

variable {q : Queue} {id : String} {arrived : List Record} {initial stored : Option (Dict Json)}
  (hlags : Lags q id arrived initial stored)

include hlags

/-- What leaves the entry of an entity alone, and does not blacklist it, does not matter. -/
theorem Lags.of_same {q' : Queue} (hheld : q'.held.get? id = q.held.get? id)
    (hblacklisted : q'.isBlacklisted id = true → q.isBlacklisted id = true) :
    Lags q' id arrived initial stored where
  pending := hheld ▸ hlags.pending
  absent := hheld ▸ hlags.absent
  ended := hheld ▸ hlags.ended
  blacklisted hlisted := hheld ▸ hlags.blacklisted (hblacklisted hlisted)
  unseen := hheld ▸ hlags.unseen

/-- A record of another entity does not matter. -/
theorem Lags.append_of_ne {r : Record} (hid : r.targetId ≠ id) (now : Instant) :
    Lags (q.append now r) id arrived initial stored := by
  have hheld : (q.append now r).held.get? id = q.held.get? id := by
    rw [get?_held_append, if_neg (Ne.symm hid)]
  exact hlags.of_same hheld fun hlisted => hlisted

/-- The next record of an orderly life merges into what waits, or begins to wait. -/
theorem Lags.append {r : Record} (hid : r.targetId = id)
    (horderly : Orderly initial.isSome (arrived ++ [r])) (now : Instant) :
    Lags (q.append now r) id (arrived ++ [r]) initial stored := by
  obtain ⟨_, halive, hcreation⟩ := horderly.of_concat
  have hheld : (q.append now r).held.get? id = some (arrive now r (q.held.get? id)) := by
    rw [get?_held_append, if_pos hid.symm]
  have hended : ¬∃ p ∈ arrived, p.deletes = true := by
    rintro ⟨p, hp, hdeletes⟩
    rw [halive p hp] at hdeletes
    exact Bool.false_ne_true hdeletes
  have hwaiting : ∀ h, q.held.get? id = some h → h.record.deletes = false := by
    intro h hget
    rw [← Bool.not_eq_true]
    exact fun hdeletes => hended (hlags.ended h hget hdeletes)
  refine ⟨?_, ?_, ?_, ?_, ?_⟩
  · rw [Record.applyEach_append, hlags.pending, hheld, Option.elim_some]
    cases hget : q.held.get? id with
    | none => rfl
    | some h => exact (Record.applyTo_merge (hwaiting h hget) stored).symm
  · intro h hget hcreates
    rw [hheld, Option.some.injEq] at hget
    subst hget
    cases hbefore : q.held.get? id with
    | none =>
      rw [hbefore] at hcreates
      obtain ⟨hfirst, hunknown⟩ := hcreation hcreates
      rw [(hlags.unseen hfirst).2, ← Option.not_isSome_iff_eq_none, hunknown]
      exact Bool.false_ne_true
    | some before =>
      have hnot : r.creates = false := by
        rw [← Bool.not_eq_true]
        intro hr
        have hnone := (hlags.unseen (hcreation hr).1).1
        rw [hbefore] at hnone
        cases hnone
      rw [hbefore, arrive, Record.creates_merge, hnot, Bool.or_false] at hcreates
      exact hlags.absent before hbefore hcreates
  · intro h hget hdeletes
    rw [hheld, Option.some.injEq] at hget
    subst hget
    refine ⟨r, List.mem_append_right arrived List.mem_cons_self, ?_⟩
    cases hbefore : q.held.get? id with
    | none => rwa [hbefore] at hdeletes
    | some before =>
      rwa [hbefore, arrive, Record.deletes_merge, hwaiting before hbefore, Bool.false_or]
        at hdeletes
  · intro hblacklisted
    exact absurd (hlags.blacklisted hblacklisted).2 hended
  · intro hnil
    exact absurd hnil (by simp)

/-- Other windows do not matter. -/
theorem Lags.setTuning (tuning : Tuning) :
    Lags (q.setTuning tuning) id arrived initial stored :=
  hlags.of_same rfl fun hlisted => hlisted

/-- No entry of an orderly life is refused. -/
theorem Lags.refuses_eq_false {h : Held} (hheld : q.held.get? id = some h) (now : Instant) :
    q.refuses now id = false := by
  rw [← Bool.not_eq_true]
  intro hrefused
  have hnone := (hlags.blacklisted (isBlacklisted_of_refuses hrefused)).1
  rw [hheld] at hnone
  cases hnone

/-- An id that is blacklisted after a drain is one whose entity was deleted. -/
theorem Lags.exists_deletes_of_isBlacklisted (hq : q.Keyed) {now : Instant}
    (hlisted : (q.drain now).1.isBlacklisted id = true) : ∃ r ∈ arrived, r.deletes = true := by
  rcases hq.isBlacklisted_drain hlisted with hretires | hrefused
  · obtain ⟨h, hheld, hdeletes, _⟩ := hq.retires_iff.mp hretires
    exact hlags.ended h hheld hdeletes
  · exact (hlags.blacklisted (isBlacklisted_of_refuses hrefused)).2

/-- A drain stores what it releases, and what it drops was never stored. -/
theorem Lags.drain (hq : q.Keyed) (now : Instant) :
    Lags (q.drain now).1 id arrived initial
      (Record.applyEach ((q.drain now).2.1.recordsOf id) stored) := by
  have hdeleted : (q.drain now).1.isBlacklisted id = true → ∃ r ∈ arrived, r.deletes = true :=
    hlags.exists_deletes_of_isBlacklisted hq
  rw [hq.recordsOf_drain (.refl _)]
  cases hheld : q.held.get? id with
  | none =>
    have hdue : (q.due now).get? id = none := by rw [get?_due, hheld, Option.filter_none]
    have hafter : (q.drain now).1.held.get? id = none := by
      rw [get?_held_drain, hheld, Option.filter_none]
    refine lags_of_none hafter ?_ hdeleted
    rw [hdue, hlags.pending, hheld]
    rfl
  | some h =>
    rcases fate_of_not_refused hheld (hlags.refuses_eq_false hheld now) with
      ⟨hshort, hdue, hafter⟩ | ⟨hshort, hdue, hafter⟩ | ⟨_, hdue, hafter⟩
    · -- dropped as short-lived: all records together leave nothing, and nothing was stored
      obtain ⟨hcreates, hdeletes⟩ := (Bool.and_eq_true_iff.mp hshort : _ ∧ _)
      refine lags_of_none hafter ?_ hdeleted
      rw [hdue, hlags.pending, hheld, Option.elim_some, Record.applyTo_of_deletes hdeletes]
      exact (hlags.absent h hheld hcreates).symm
    · refine lags_of_none hafter ?_ hdeleted
      rw [hdue, Option.elim_some, Record.applyEach_parts hshort, hlags.pending, hheld]
      rfl
    · rw [hdue, Option.elim_none]
      have hfree := hq.isBlacklisted_drain_of_held ⟨h, hafter⟩
      refine hlags.of_same (hafter.trans hheld.symm) fun hlisted => ?_
      rw [hfree] at hlisted
      cases hlisted

end Step

/-- Along a run without resets, as long as the records of an entity are orderly, the model that
takes the releases lags behind by what waits for the entity. -/
theorem lags_after (tuning : Tuning) (id : String) (initial : Option (Dict Json))
    {calls : List Call} (hreset : Call.reset ∉ calls)
    (horderly : Orderly initial.isSome (appendedTo id calls)) :
    Lags ((fresh tuning).after calls) id (appendedTo id calls) initial
      (Record.applyEach ((fresh tuning).releasedTo id calls) initial) := by
  -- from the end of the run: the beginning of an orderly life is orderly, the rest need not be
  induction calls using List.reverseRecOn with
  | nil => exact lags_fresh tuning id initial
  | append_singleton calls call ih =>
    have harrived := appendedTo_append id calls [call]
    have hbefore := ih (fun hmem => hreset (List.mem_append_left _ hmem))
      (harrived ▸ horderly).of_append
    have hkeyed := (keyed_fresh tuning).after calls
    rw [after_concat, releasedTo_concat, Record.applyEach_append]
    rw [harrived] at horderly ⊢
    cases call with
    | append now r =>
      by_cases hid : r.targetId = id
      · subst hid
        rw [appendedTo_singleton_append] at horderly ⊢
        exact hbefore.append rfl horderly now
      · rw [appendedTo_singleton_eq_nil (fun s hs => Option.some.inj hs ▸ hid), List.append_nil]
        exact hbefore.append_of_ne hid now
    | setTuning tuning' =>
      have hnothing : appendedTo id [.setTuning tuning'] = [] := rfl
      rw [hnothing, List.append_nil]
      exact hbefore.setTuning tuning'
    | drain now =>
      have hreleased : ((fresh tuning).after calls).releasedTo id [.drain now] =
          (((fresh tuning).after calls).drain now).2.1.recordsOf id := by
        simp [releasedTo, releases]
      have hnothing : appendedTo id [.drain now] = [] := rfl
      rw [hreleased, hnothing, List.append_nil]
      exact hbefore.drain hkeyed now
    | reset => exact absurd (List.mem_append_right calls List.mem_cons_self) hreset

/-- **Consolidation preserves meaning.** Take any model and any run of a fresh queue without
resets, in which the records of each entity are orderly and after which nothing waits. The model
after everything that the drains released, each release in any arrangement, is the model after
every appended record, one after the other. -/
theorem applyAll_released_eq_applyAll_appended (tuning : Tuning) (model : Model)
    {calls : List Call} {batches : List Release} (hreset : Call.reset ∉ calls)
    (horderly : ∀ id, Orderly (model.contains id) (appendedTo id calls))
    (hempty : ((fresh tuning).after calls).isEmpty = true)
    (hbatches : List.Forall₂ Release.Rearranges batches ((fresh tuning).releases calls)) :
    model.applyAll (batches.flatMap Release.ordered) = model.applyAll (appended calls) := by
  apply Dict.ext_get?
  intro id
  have hlags := lags_after tuning id (model.get? id) hreset (horderly id)
  have hnone : ((fresh tuning).after calls).held.get? id = none := Dict.isEmpty_iff.mp hempty id
  have hreleased : (batches.flatMap Release.ordered).filter (·.targetId = id) =
      (fresh tuning).releasedTo id calls := by
    rw [List.filter_flatMap, ← (keyed_fresh tuning).flatMap_recordsOf_eq hbatches]
    rfl
  calc
    (model.applyAll (batches.flatMap Release.ordered)).get? id
      = Record.applyEach ((fresh tuning).releasedTo id calls) (model.get? id) := by
        rw [Model.get?_applyAll, hreleased]
    _ = Record.applyEach (appendedTo id calls) (model.get? id) := by
        rw [hlags.pending, hnone, Option.elim_none]
    _ = (model.applyAll (appended calls)).get? id := by
        rw [Model.get?_applyAll]
        rfl

/-- A model with one host. -/
def hostModel : Model :=
  Dict.ofList [("host", .ofList [("name", .string "h")])]

/-- Two machines that refer to each other and come into being, a disk that comes and goes while
it waits, and a host that is renamed and deleted. The windows change on the way, and the clock
steps back once. -/
def busyCalls : List Call :=
  [.append (.ofSeconds 2000)
      { targetId := "web", lifecycle := .create, fields := .ofList [("set_peer", .string "db")] },
    .append (.ofSeconds 2001) { targetId := "host", fields := .ofList [("name", .string "g")] },
    .append (.ofSeconds 2002) { targetId := "disk", lifecycle := .create },
    .append (.ofSeconds 2002)
      { targetId := "db", lifecycle := .create, fields := .ofList [("set_peer", .string "web")] },
    .append (.ofSeconds 2003) { targetId := "disk", lifecycle := .delete },
    .drain (.ofSeconds 2020),
    .append (.ofSeconds 2019) { targetId := "web", fields := .ofList [("name", .string "x")] },
    .drain (.ofSeconds 2042),
    .setTuning { updateConsolidate := .ofSeconds 5 },
    .append (.ofSeconds 2043) { targetId := "db", fields := .ofList [("size", .string "2")] },
    .append (.ofSeconds 2044) { targetId := "host", lifecycle := .delete },
    .drain (.ofSeconds 2048)]

/-- The releases of the busy run, each turned around, lead to the same model as its records. -/
theorem applyAll_busyCalls :
    hostModel.applyAll ((((fresh {}).releases busyCalls).map fun release =>
        ⟨release.creates.reverse, release.links.reverse, release.updates.reverse⟩).flatMap
          Release.ordered) =
      hostModel.applyAll (appended busyCalls) := by
  refine applyAll_released_eq_applyAll_appended {} hostModel (by decide) ?_ (by decide) ?_
  · exact orderly_appendedTo_of_mem (by decide)
  · rw [List.forall₂_map_left_iff, List.forall₂_same]
    intro release _
    exact ⟨List.reverse_perm _, List.reverse_perm _, List.reverse_perm _⟩

end Queue

end CloudCollector
