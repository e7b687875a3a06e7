import CloudCollector.Discovery.Sightings
import CloudCollector.Proofs.Registry
import Mathlib.Data.List.Forall2
import Mathlib.Data.List.Induction

/-!
# Which children a discovery emits

The sightings of a target live through notes and discoveries, each with the reading of the clock
that it takes, and each discovery with the registry and the rules of its time. Of all this they
keep two things: when each id was first noted, and for which ids a record was emitted. So a
discovery emits a record for each id that was noted, was not emitted before, is young enough by its
first note and fits the registry, and for no other id.
-/

namespace CloudCollector

/-! ## Rules and candidates -/

/-- A rule fits a candidate if a resource of the kind that it asks for is a parent of it. -/
def Rule.Fits (rule : Rule) (registry : Registry) (target candidate : String) : Prop :=
  ∃ parent ∈ registry.idsOfKind target rule.parentKind, (Rule.suffix? candidate parent).isSome

instance (rule : Rule) (registry : Registry) (target candidate : String) :
    Decidable (rule.Fits registry target candidate) :=
  inferInstanceAs (Decidable (∃ parent ∈ registry.idsOfKind target rule.parentKind,
    (Rule.suffix? candidate parent).isSome))

/-- The record of the child that one rule makes of a candidate, if it fits. -/
def Rule.childOf? (rule : Rule) (registry : Registry) (target candidate : String) :
    Option Record :=
  (registry.idsOfKind target rule.parentKind).findSome? fun parent => do
    let suffix ← Rule.suffix? candidate parent
    let component ← registry.componentFor? target parent
    return rule.childRecord candidate parent component suffix

/-- A rule makes a record of a candidate exactly when it fits. -/
theorem Rule.isSome_childOf?_iff {rule : Rule} {registry : Registry} {target candidate : String} :
    (rule.childOf? registry target candidate).isSome = true ↔
      rule.Fits registry target candidate := by
  rw [childOf?, List.findSome?_isSome_iff, Fits]
  refine exists_congr fun parent => and_congr_right fun hparent => ?_
  -- a resource of a kind is known, so its component is
  obtain ⟨resource, hresource, -⟩ := Registry.mem_idsOfKind_iff.mp hparent
  rw [Registry.componentFor?, hresource]
  cases Rule.suffix? candidate parent <;> simp

namespace Sightings

/-- The first rule that fits decides. -/
theorem matchCandidate_eq_findSome? (registry : Registry) (target : String) (rules : List Rule)
    (candidate : String) :
    matchCandidate registry target rules candidate =
      rules.findSome? fun rule => rule.childOf? registry target candidate := rfl

/-- A candidate is matched when some rule fits it. -/
theorem isSome_matchCandidate_iff {registry : Registry} {target candidate : String}
    {rules : List Rule} :
    (matchCandidate registry target rules candidate).isSome = true ↔
      ∃ rule ∈ rules, rule.Fits registry target candidate := by
  rw [matchCandidate_eq_findSome?, List.findSome?_isSome_iff]
  simp only [Rule.isSome_childOf?_iff]

/-- The candidate becomes a child by the first rule that fits it. -/
theorem matchCandidate_eq_some_iff {registry : Registry} {target candidate : String}
    {rules : List Rule} {record : Record} :
    matchCandidate registry target rules candidate = some record ↔
      ∃ first rule rest, rules = first ++ rule :: rest ∧
        rule.childOf? registry target candidate = some record ∧
        ∀ other ∈ first, ¬other.Fits registry target candidate := by
  simp only [matchCandidate_eq_findSome?, List.findSome?_eq_some_iff, ← Rule.isSome_childOf?_iff,
    Option.not_isSome_iff_eq_none]

/-- The record of a matched candidate is that of a child, and tells the candidate as its
resource. -/
theorem resourceId_of_matchCandidate {registry : Registry} {target candidate : String}
    {rules : List Rule} {record : Record}
    (h : matchCandidate registry target rules candidate = some record) :
    record.fields.get? "resourceId" = some (.string candidate) := by
  obtain ⟨rule, -, hrule⟩ := List.exists_of_findSome?_eq_some h
  obtain ⟨parent, -, hparent⟩ := List.exists_of_findSome?_eq_some hrule
  obtain ⟨suffix, -, hsuffix⟩ := Option.bind_eq_some_iff.mp hparent
  obtain ⟨component, -, hrecord⟩ := Option.bind_eq_some_iff.mp hsuffix
  obtain rfl := Option.some.inj hrecord
  exact (Dict.get?_insert ..).trans (if_pos rfl)

/-! ## One discovery -/

/-- An id is pending if it was noted less than the horizon ago and no record was emitted for it. -/
theorem mem_pending_iff {s : Sightings} {now : Instant} {horizon : Span} {id : String} :
    id ∈ s.pending now horizon ↔
      (∃ seen, s.potential.get? id = some seen ∧ now.since seen < horizon) ∧
        s.isModeled id = false := by
  rw [pending, Dict.mem_keys_iff, Dict.get?_filter]
  simp only [Option.filter_eq_some_iff, Bool.and_eq_true, Bool.not_eq_true', decide_eq_true_eq]
  constructor
  · rintro ⟨seen, hseen, hmodeled, hyoung⟩
    exact ⟨⟨seen, hseen, hyoung⟩, hmodeled⟩
  · rintro ⟨⟨seen, hseen, hyoung⟩, hmodeled⟩
    exact ⟨seen, hseen, hmodeled, hyoung⟩

/-- A discovery emits the records of the pending ids that match. -/
theorem mem_matched_iff {s : Sightings} {registry : Registry} {target : String} {rules : List Rule}
    {now : Instant} {horizon : Span} {id : String} {record : Record} :
    (id, record) ∈ s.matched registry target rules now horizon ↔
      id ∈ s.pending now horizon ∧ matchCandidate registry target rules id = some record := by
  rw [matched, List.mem_filterMap]
  constructor
  · rintro ⟨candidate, hpending, hfound⟩
    obtain ⟨found, hmatch, hpair⟩ := Option.map_eq_some_iff.mp hfound
    obtain ⟨rfl, rfl⟩ := Prod.mk.inj hpair
    exact ⟨hpending, hmatch⟩
  · rintro ⟨hpending, hmatch⟩
    exact ⟨id, hpending, by rw [hmatch, Option.map_some]⟩

/-- The ids that are emitted are the pending ones that match, in their order. -/
theorem map_fst_matched (s : Sightings) (registry : Registry) (target : String)
    (rules : List Rule) (now : Instant) (horizon : Span) :
    (s.matched registry target rules now horizon).map (·.1) =
      (s.pending now horizon).filter fun id =>
        (matchCandidate registry target rules id).isSome := by
  unfold matched
  induction s.pending now horizon with
  | nil => rfl
  | cons id rest ih => cases hmatch : matchCandidate registry target rules id <;> simp [hmatch, ih]

/-! ## Runs -/

/-- A call on the sightings of a target. -/
inductive Call where
  | note (id : String) (now : Instant)
  | discover (registry : Registry) (target : String) (rules : List Rule) (now : Instant)
    (horizon : Span)
  deriving DecidableEq

/-- The time at which a call notes an id, if it does. -/
def Call.noteOf? (id : String) : Call → Option Instant
  | .note other now => if other = id then some now else none
  | .discover .. => none

/-- Whether a call, if it is a discovery, comes no sooner than `now` and reaches no further back
than `horizon`. -/
def Call.NoSooner (now : Instant) (horizon : Span) : Call → Prop
  | .note _ _ => True
  | .discover _ _ _ later reach => now ≤ later ∧ reach ≤ horizon

/-- The sightings after a call. -/
def perform (s : Sightings) : Call → Sightings
  | .note id now => s.note id now
  | .discover registry target rules now horizon =>
    (s.discover registry target rules now horizon).1

/-- The sightings after a run of calls. -/
def after (s : Sightings) (calls : List Call) : Sightings :=
  calls.foldl perform s

/-- The ids for which a call emits a record. -/
def emitted (s : Sightings) : Call → List String
  | .note _ _ => []
  | .discover registry target rules now horizon =>
    (s.matched registry target rules now horizon).map (·.1)

/-- The ids for which a run emits a record, one after the other. -/
def emissions (s : Sightings) : List Call → List String
  | [] => []
  | call :: rest => s.emitted call ++ (s.perform call).emissions rest

/-- The time of the first note of an id in a run. -/
def firstNote? (id : String) (calls : List Call) : Option Instant :=
  calls.findSome? (Call.noteOf? id)

/-- No calls change nothing. -/
@[simp]
theorem after_nil (s : Sightings) : s.after [] = s := rfl

/-- A run makes its first call and then the rest. -/
theorem after_cons (s : Sightings) (call : Call) (calls : List Call) :
    s.after (call :: calls) = (s.perform call).after calls := rfl

/-- A run may be made in two parts. -/
theorem after_append (s : Sightings) (first second : List Call) :
    s.after (first ++ second) = (s.after first).after second :=
  List.foldl_append

/-- A run makes its last call after the others. -/
theorem after_concat (s : Sightings) (calls : List Call) (call : Call) :
    s.after (calls ++ [call]) = (s.after calls).perform call := by
  rw [after_append, after_cons, after_nil]

/-- What a run in two parts emits is what its parts emit. -/
theorem emissions_append (s : Sightings) (first second : List Call) :
    s.emissions (first ++ second) = s.emissions first ++ (s.after first).emissions second := by
  induction first generalizing s with
  | nil => rfl
  | cons call rest ih =>
    rw [List.cons_append, emissions, emissions, ih, after_cons, List.append_assoc]

/-- What the last call emits comes last. -/
theorem emissions_concat (s : Sightings) (calls : List Call) (call : Call) :
    s.emissions (calls ++ [call]) = s.emissions calls ++ (s.after calls).emitted call := by
  rw [emissions_append, emissions, emissions, List.append_nil]

/-- An id is first noted in the first part of a run that notes it. -/
theorem firstNote?_append (id : String) (first second : List Call) :
    firstNote? id (first ++ second) = (firstNote? id first).or (firstNote? id second) :=
  List.findSome?_append

/-- In a run of one call an id is first noted by that call. -/
theorem firstNote?_singleton (id : String) (call : Call) :
    firstNote? id [call] = call.noteOf? id := by
  rw [firstNote?, List.findSome?_cons]
  cases call.noteOf? id <;> rfl

/-- An id that has a first note was noted at that time. -/
theorem mem_of_firstNote? {id : String} {calls : List Call} {seen : Instant}
    (h : firstNote? id calls = some seen) : .note id seen ∈ calls := by
  obtain ⟨call, hcall, hnote⟩ := List.exists_of_findSome?_eq_some h
  cases call with
  | note other now =>
    rw [Call.noteOf?] at hnote
    split at hnote
    · next hid =>
      obtain rfl := Option.some.inj hnote
      exact hid ▸ hcall
    · cases hnote
  | discover => cases hnote

/-! ## What the sightings keep of a run -/

/-- Only ids that were noted have a record. -/
def Sound (s : Sightings) : Prop :=
  ∀ id, s.isModeled id = true → s.potential.contains id = true

/-- A discovery emits a record for each pending id that matches. -/
theorem emitted_discover (s : Sightings) (registry : Registry) (target : String)
    (rules : List Rule) (now : Instant) (horizon : Span) :
    s.emitted (.discover registry target rules now horizon) =
      (s.pending now horizon).filter fun id => (matchCandidate registry target rules id).isSome :=
  s.map_fst_matched registry target rules now horizon

/-- A discovery emits a record for an id that is young enough, has none yet and is fit for some
rule. -/
theorem mem_emitted_discover_iff {s : Sightings} {registry : Registry} {target : String}
    {rules : List Rule} {now : Instant} {horizon : Span} {id : String} :
    id ∈ s.emitted (.discover registry target rules now horizon) ↔
      (∃ seen, s.potential.get? id = some seen ∧ now.since seen < horizon) ∧
        s.isModeled id = false ∧ ∃ rule ∈ rules, rule.Fits registry target id := by
  rw [emitted_discover, List.mem_filter, mem_pending_iff, isSome_matchCandidate_iff, and_assoc]

/-- A discovery emits one record for each of its ids, in their order. -/
theorem forall₂_discover (s : Sightings) (registry : Registry) (target : String)
    (rules : List Rule) (now : Instant) (horizon : Span) :
    List.Forall₂ (fun id record => matchCandidate registry target rules id = some record)
      (s.emitted (.discover registry target rules now horizon))
      (s.discover registry target rules now horizon).2 := by
  have hrecords : (s.discover registry target rules now horizon).2 =
      (s.matched registry target rules now horizon).map (·.2) := rfl
  rw [emitted, hrecords, List.forall₂_map_left_iff, List.forall₂_map_right_iff, List.forall₂_same]
  exact fun found hfound => (mem_matched_iff.mp hfound).2

/-- A call emits only what was noted and has no record. -/
theorem pending_of_mem_emitted {s : Sightings} {call : Call} {id : String}
    (h : id ∈ s.emitted call) : s.potential.contains id = true ∧ s.isModeled id = false := by
  cases call with
  | note other now => exact absurd h List.not_mem_nil
  | discover registry target rules now horizon =>
    obtain ⟨⟨seen, hseen, -⟩, hmodeled, -⟩ := mem_emitted_discover_iff.mp h
    exact ⟨by rw [Dict.contains, hseen, Option.isSome_some], hmodeled⟩

/-- A call emits no id twice. -/
theorem nodup_emitted (s : Sightings) (call : Call) : (s.emitted call).Nodup := by
  cases call with
  | note other now => exact List.nodup_nil
  | discover registry target rules now horizon =>
    rw [emitted_discover]
    exact (Dict.nodup_keys _).filter _

/-- The ids with a record are those that had one and those that are emitted. -/
theorem isModeled_perform {s : Sightings} {call : Call} {id : String} :
    (s.perform call).isModeled id = true ↔ s.isModeled id = true ∨ id ∈ s.emitted call := by
  cases call with
  | note other now =>
    have hmodeled : (s.note other now).isModeled id = s.isModeled id := by
      unfold note
      split <;> rfl
    simp [perform, emitted, hmodeled]
  | discover registry target rules now horizon =>
    rw [perform, discover, emitted, isModeled, Dict.contains_eq_isSome, Dict.get?_insertAll,
      isModeled, Dict.contains_eq_isSome]
    by_cases hmem : id ∈ (s.matched registry target rules now horizon).map (·.1)
    · simp [hmem]
    · simp [hmem]

/-- An id keeps the time of its first note. -/
theorem Sound.get?_potential_perform {s : Sightings} (hs : s.Sound) (call : Call) (id : String) :
    (s.perform call).potential.get? id = (s.potential.get? id).or (call.noteOf? id) := by
  cases call with
  | discover registry target rules now horizon =>
    rw [Call.noteOf?, Option.or_none]
    rfl
  | note other now =>
    rw [perform, note, Call.noteOf?]
    split
    · next hold =>
      have hcontains : s.potential.contains other = true := by
        rcases (Bool.or_eq_true _ _).mp hold with hmodeled | hcontains
        · exact hs other hmodeled
        · exact hcontains
      obtain ⟨seen, hseen⟩ := Option.isSome_iff_exists.mp hcontains
      by_cases hother : other = id
      · rw [← hother, hseen, Option.some_or]
      · rw [if_neg hother, Option.or_none]
    · next hnew =>
      have habsent : s.potential.get? other = none := by
        rw [Bool.or_eq_true, not_or] at hnew
        exact Option.not_isSome_iff_eq_none.mp hnew.2
      rw [Dict.get?_insert]
      by_cases hother : other = id
      · rw [if_pos hother, if_pos hother.symm, ← hother, habsent, Option.none_or]
      · rw [if_neg hother, if_neg (Ne.symm hother), Option.or_none]

/-- Sightings stay sound after a call. -/
theorem Sound.perform {s : Sightings} (hs : s.Sound) (call : Call) : (s.perform call).Sound := by
  intro id hmodeled
  have hcontains : s.potential.contains id = true := by
    rcases isModeled_perform.mp hmodeled with hmodeled | hemitted
    · exact hs id hmodeled
    · exact (pending_of_mem_emitted hemitted).1
  rw [Dict.contains_eq_isSome] at hcontains ⊢
  rw [hs.get?_potential_perform, Option.isSome_or, hcontains, Bool.true_or]

/-- Sightings stay sound after a run. -/
theorem Sound.after {s : Sightings} (hs : s.Sound) (calls : List Call) : (s.after calls).Sound := by
  induction calls generalizing s with
  | nil => exact hs
  | cons call rest ih => exact ih (hs.perform call)

/-- Nothing has a record before the first call. -/
theorem sound_empty : Sound {} := by
  intro id hmodeled
  cases hmodeled

/-- The time that is kept of an id is that of its first note in the run. -/
theorem get?_potential_after (calls : List Call) (id : String) :
    (after {} calls).potential.get? id = firstNote? id calls := by
  induction calls using List.reverseRecOn with
  | nil => rfl
  | append_singleton calls call ih =>
    rw [after_concat, (sound_empty.after calls).get?_potential_perform, ih, firstNote?_append,
      firstNote?_singleton]

/-- The ids with a record are those that the run emitted. -/
theorem isModeled_after_iff (calls : List Call) (id : String) :
    (after {} calls).isModeled id = true ↔ id ∈ emissions {} calls := by
  induction calls using List.reverseRecOn with
  | nil => exact iff_of_false Bool.false_ne_true List.not_mem_nil
  | append_singleton calls call ih =>
    rw [after_concat, isModeled_perform, ih, emissions_concat, List.mem_append]

/-- No run emits an id twice. -/
theorem nodup_emissions (calls : List Call) : (emissions {} calls).Nodup := by
  induction calls using List.reverseRecOn with
  | nil => exact List.nodup_nil
  | append_singleton calls call ih =>
    rw [emissions_concat]
    refine List.nodup_append.mpr ⟨ih, nodup_emitted _ call, ?_⟩
    rintro id hold _ hnew rfl
    have hfree := (pending_of_mem_emitted hnew).2
    rw [(isModeled_after_iff calls id).mpr hold] at hfree
    cases hfree

/-! ## Candidates that are too old -/

/-- An id that was first seen too long ago and has no record is not emitted by a call that comes no
sooner, and stays as it is. -/
theorem Sound.expired_perform {s : Sightings} (hs : s.Sound) {id : String} {seen now : Instant}
    {horizon : Span} (hseen : s.potential.get? id = some seen) (hold : horizon ≤ now.since seen)
    {call : Call} (hcall : call.NoSooner now horizon) :
    id ∉ s.emitted call ∧ (s.perform call).potential.get? id = some seen := by
  refine ⟨fun hemitted => ?_, by rw [hs.get?_potential_perform, hseen, Option.some_or]⟩
  cases call with
  | note other later => exact absurd hemitted List.not_mem_nil
  | discover registry target rules later reach =>
    obtain ⟨hlater, hreach⟩ := hcall
    obtain ⟨⟨first, hfirst, hyoung⟩, -⟩ := mem_emitted_discover_iff.mp hemitted
    obtain rfl := Option.some.inj (hseen.symm.trans hfirst)
    have holder : now.since seen ≤ later.since seen := Instant.since_le_since hlater
    exact absurd hyoung (Nat.not_lt.mpr (Nat.le_trans hreach (Nat.le_trans hold holder)))

/-- An id that was first seen too long ago is not emitted any more. -/
theorem Sound.not_mem_emissions_of_expired {s : Sightings} (hs : s.Sound) {id : String}
    {seen now : Instant} {horizon : Span} (hseen : s.potential.get? id = some seen)
    (hold : horizon ≤ now.since seen) {calls : List Call}
    (hcalls : ∀ call ∈ calls, call.NoSooner now horizon) : id ∉ s.emissions calls := by
  induction calls generalizing s with
  | nil => exact List.not_mem_nil
  | cons call rest ih =>
    obtain ⟨hcall, hrest⟩ := List.forall_mem_cons.mp hcalls
    obtain ⟨hemitted, hkept⟩ := hs.expired_perform hseen hold hcall
    rw [emissions, List.mem_append, not_or]
    exact ⟨hemitted, ih (hs.perform call) hkept hrest⟩

/-! ## All runs -/

/-- **Emission is exact.** After any run of notes and discoveries a discovery emits one record for
each id, in increasing order, that was noted, that no earlier call emitted, that was first noted
less than the horizon ago, and that some rule fits with a parent in the registry; and it emits no
others. So no run emits an id twice, only noted ids have a record, and an id that has passed the
horizon is not emitted by any call that comes no sooner and reaches no further back. -/
theorem discover_emits_exactly (calls : List Call) (registry : Registry) (target : String)
    (rules : List Rule) (now : Instant) (horizon : Span) :
    let s := after {} calls
    let ids := s.emitted (.discover registry target rules now horizon)
    List.Forall₂ (fun id record => matchCandidate registry target rules id = some record) ids
        (s.discover registry target rules now horizon).2 ∧
      ids.Pairwise (· < ·) ∧
      (∀ id, id ∈ ids ↔
        (∃ seen, firstNote? id calls = some seen ∧ now.since seen < horizon) ∧
          id ∉ emissions {} calls ∧ ∃ rule ∈ rules, rule.Fits registry target id) ∧
      (emissions {} calls).Nodup ∧
      (∀ id, s.isModeled id = true → ∃ seen, .note id seen ∈ calls) ∧
      ∀ id seen later, firstNote? id calls = some seen → horizon ≤ now.since seen →
        (∀ call ∈ later, call.NoSooner now horizon) → id ∉ s.emissions later := by
  intro s ids
  have hsound : s.Sound := sound_empty.after calls
  refine ⟨s.forall₂_discover registry target rules now horizon, ?_, fun id => ?_,
    nodup_emissions calls, fun id hmodeled => ?_, ?_⟩
  · show (s.emitted _).Pairwise (· < ·)
    rw [emitted_discover]
    exact (List.pairwise_map.mpr (Dict.increasing _)).filter _
  · rw [mem_emitted_discover_iff, get?_potential_after, ← isModeled_after_iff, Bool.not_eq_true]
  · obtain ⟨seen, hseen⟩ := Option.isSome_iff_exists.mp (hsound id hmodeled)
    rw [get?_potential_after] at hseen
    exact ⟨seen, mem_of_firstNote? hseen⟩
  · intro id seen later hseen hold hlater
    rw [← get?_potential_after] at hseen
    exact hsound.not_mem_emissions_of_expired hseen hold hlater

/-- A site with one virtual machine. -/
def machineRegistry : Registry :=
  Registry.setConfig {} "site"
    { datasources :=
        [{ resourceId := "vm", component := "server-vm", componentKind := "Instance" }] }

/-- Two interfaces are noted, the second fifty seconds after the first, before their machine is
known; the second is noted once more. -/
def interfaceCalls : List Call :=
  [.note "tap-vm-eth0" (.ofSeconds 15000), .note "tap-vm-eth1" (.ofSeconds 15050),
    .discover {} "site" [.networkInterfaces] (.ofSeconds 15060) standardHorizon,
    .note "tap-vm-eth1" (.ofSeconds 16000)]

/-- When the machine is known at last, only the second interface is young enough. The first one is
not emitted later on, and the second not again. -/
theorem interfaces_emitted :
    let s := after {} interfaceCalls
    let last : Call := .discover machineRegistry "site" [.networkInterfaces] (.ofSeconds 16201)
      standardHorizon
    "tap-vm-eth0" ∉ s.emitted last ∧ "tap-vm-eth1" ∈ s.emitted last ∧
      "tap-vm-eth0" ∉ s.emissions [last, .note "tap-vm-eth0" (.ofSeconds 16300), last] ∧
      (emissions {} (interfaceCalls ++ [last, last])).Nodup := by
  intro s last
  obtain ⟨-, -, hemits, -, -, hexpired⟩ := discover_emits_exactly interfaceCalls machineRegistry
    "site" [.networkInterfaces] (.ofSeconds 16201) standardHorizon
  obtain ⟨-, -, -, hnodup, -⟩ := discover_emits_exactly (interfaceCalls ++ [last, last])
    machineRegistry "site" [.networkInterfaces] (.ofSeconds 16201) standardHorizon
  refine ⟨fun h => ?_, ?_, ?_, hnodup⟩
  · obtain ⟨⟨seen, hseen, hyoung⟩, -⟩ := (hemits "tap-vm-eth0").mp h
    obtain rfl : (.ofSeconds 15000 : Instant) = seen := Option.some.inj hseen
    exact absurd hyoung (by decide)
  · exact (hemits "tap-vm-eth1").mpr ⟨⟨.ofSeconds 15050, rfl, by decide⟩, by decide, by decide⟩
  · refine hexpired "tap-vm-eth0" (.ofSeconds 15000) _ rfl (by decide) ?_
    simp only [List.forall_mem_cons, List.not_mem_nil, IsEmpty.forall_iff, implies_true, and_true]
    exact ⟨⟨by decide, by decide⟩, trivial, by decide, by decide⟩

end Sightings

end CloudCollector
