import CloudCollector.Proofs.Model
import CloudCollector.Proofs.Queue.Merging
import CloudCollector.Proofs.Queue.Retirement

/-!
# Deletions of known entities

A deletion is due at once, so the next drain releases it, unless a creation of the same entity
was merged with it. The merge keeps both bits and forgets their order: a known entity that is
deleted and created again looks like one that came and went while it waited, and its deletion is
dropped. The model then keeps the entity.
-/

namespace CloudCollector.Queue

/-- The run releases a record of the entity that does not delete it, and no later drain retires
the id. -/
def Establishes (q : Queue) (id : String) (calls : List Call) : Prop :=
  ∃ before now since, calls = before ++ .drain now :: since ∧
    (∃ r ∈ ((q.after before).drain now).2.1.recordsOf id, r.deletes = false) ∧
    (q.after (before ++ [.drain now])).NeverRetires id since

/-- Calls that let nothing leave do not make a drain refuse an id. -/
theorem refuses_after_quiet {q : Queue} {id : String} {window : List Call}
    (hquiet : ∀ call ∈ window, call.IsQuiet) (hfree : q.isBlacklisted id = false)
    (now : Instant) : (q.after window).refuses now id = false := by
  rw [← Bool.not_eq_true]
  intro hrefused
  have hlisted := isBlacklisted_of_refuses hrefused
  rw [isBlacklisted, blacklist_after hquiet, ← isBlacklisted, hfree] at hlisted
  exact Bool.false_ne_true hlisted

section Window

variable {q : Queue} {id : String} {window : List Call}
  (hquiet : ∀ call ∈ window, call.IsQuiet)
  (hnone : q.held.get? id = none) (hdeleted : ∃ r ∈ appendedTo id window, r.deletes = true)

include hquiet hnone hdeleted

/-- Among the records that arrive for an entity between two drains is a deletion: then an entry
waits that deletes, and that creates if one of the records does. -/
theorem exists_held_of_deletion :
    ∃ h, (q.after window).held.get? id = some h ∧ h.record.deletes = true ∧
      (h.record.creates = true ↔ ∃ r ∈ appendedTo id window, r.creates = true) := by
  have hmerged := record_held_after (q := q) hquiet id
  rw [hnone, Option.map_none] at hmerged
  have hdeletes := Record.any_deletes_mergeOnto none (appendedTo id window)
  have hcreates := Record.any_creates_mergeOnto none (appendedTo id window)
  rw [← hmerged, Option.any_none, Bool.false_or] at hdeletes hcreates
  have hany : (appendedTo id window).any (·.deletes) = true := List.any_eq_true.mpr hdeleted
  rw [hany] at hdeletes
  cases hheld : (q.after window).held.get? id with
  | none =>
    rw [hheld] at hdeletes
    exact absurd hdeletes Bool.false_ne_true
  | some h =>
    rw [hheld, Option.map_some, Option.any_some] at hdeletes hcreates
    exact ⟨h, rfl, hdeletes, by rw [hcreates, List.any_eq_true]⟩

variable (hq : q.Reachable) (hfree : q.isBlacklisted id = false) {now : Instant} {out : Release}
  (hout : out.Rearranges ((q.after window).drain now).2.1)

include hq hout

/-- A deletion that a creation was merged with is dropped. -/
theorem recordsOf_eq_nil_of_creation (hcreated : ∃ r ∈ appendedTo id window, r.creates = true) :
    id ∈ (q.after window).shortlivedIds ∧ out.recordsOf id = [] := by
  obtain ⟨h, hheld, hdeletes, hcreates⟩ := exists_held_of_deletion hquiet hnone hdeleted
  have hshort : h.isShortlived = true := by
    rw [Held.isShortlived, hcreates.mpr hcreated, hdeletes]
    rfl
  refine ⟨mem_shortlivedIds_iff.mpr ⟨h, hheld, hshort⟩, ?_⟩
  have hdue : ((q.after window).due now).get? id = none := by
    rw [get?_due, hheld, Option.filter_some]
    simp [hshort]
  rw [(hq.keyed.after window).recordsOf_drain hout, hdue, Option.elim_none]

include hfree

/-- A deletion that no creation was merged with is released. -/
theorem recordsOf_eq_singleton_of_no_creation
    (hnever : ∀ r ∈ appendedTo id window, r.creates = false) :
    ∃ r, out.recordsOf id = [r] ∧ r.deletes = true := by
  obtain ⟨h, hheld, hdeletes, hcreates⟩ := exists_held_of_deletion hquiet hnone hdeleted
  have hnot : h.record.creates = false := by
    rw [← Bool.not_eq_true, hcreates]
    rintro ⟨r, hr, hrcreates⟩
    rw [hnever r hr] at hrcreates
    exact Bool.false_ne_true hrcreates
  have hshort : h.isShortlived = false := by rw [Held.isShortlived, hnot, Bool.false_and]
  have hdue : ((q.after window).due now).get? id = some h :=
    get?_due_eq_some_iff.mpr
      ⟨hheld, refuses_after_quiet hquiet hfree now, hshort, isDue_of_deletes hdeletes⟩
  refine ⟨h.record, ?_, hdeletes⟩
  rw [(hq.keyed.after window).recordsOf_drain hout, hdue, Option.elim_some, Record.parts, hnot]
  rfl

omit hout in
/-- Either way the id is blacklisted. -/
theorem isBlacklisted_drain_of_deletion :
    ((q.after window).drain now).1.isBlacklisted id = true := by
  obtain ⟨h, hheld, hdeletes, _⟩ := exists_held_of_deletion hquiet hnone hdeleted
  have hkeyed := hq.keyed.after window
  have hretires : (q.after window).Retires now id :=
    hkeyed.retires_iff.mpr ⟨h, hheld, hdeletes, .inr (refuses_after_quiet hquiet hfree now)⟩
  rw [isBlacklisted, Dict.contains_eq_isSome, hkeyed.get?_blacklist_of_retires hretires,
    Option.isSome_some]

end Window

/-- **Deletions are released unless a creation is merged with them.** Nothing waits under an id
that is not blacklisted, and then records of the entity arrive, at least one of which deletes it.
The next drain releases a deletion of the entity, and a model loses the entity by it, if and only
if none of the records creates the entity. If one does, in whatever order, the drain drops the
entry as short-lived, releases nothing of the entity, and a model keeps what it has of it. Either
way the id is blacklisted. -/
theorem deletion_released_iff_no_creation {q : Queue} (hq : q.Reachable) {id : String}
    (hfree : q.isBlacklisted id = false) (hnone : q.held.get? id = none) {window : List Call}
    (hquiet : ∀ call ∈ window, call.IsQuiet)
    (hdeleted : ∃ r ∈ appendedTo id window, r.deletes = true) (now : Instant) {out : Release}
    (hout : out.Rearranges ((q.after window).drain now).2.1) :
    ((∃ r ∈ out.recordsOf id, r.deletes = true) ↔
      ∀ r ∈ appendedTo id window, r.creates = false) ∧
    ((∃ r ∈ appendedTo id window, r.creates = true) →
      id ∈ (q.after window).shortlivedIds ∧ out.recordsOf id = []) ∧
    (∀ model : Model, (model.applyAll out.ordered).get? id =
      if (appendedTo id window).any (·.creates) then model.get? id else none) ∧
    ((q.after window).drain now).1.isBlacklisted id = true := by
  have hlisted : ((q.after window).drain now).1.isBlacklisted id = true :=
    isBlacklisted_drain_of_deletion hquiet hnone hdeleted hq hfree
  have hmodel (model : Model) : (model.applyAll out.ordered).get? id =
      Record.applyEach (out.recordsOf id) (model.get? id) := Model.get?_applyAll _ _ _
  by_cases hcreated : ∃ r ∈ appendedTo id window, r.creates = true
  · have hdropped := recordsOf_eq_nil_of_creation hquiet hnone hdeleted hq hout hcreated
    refine ⟨?_, fun _ => hdropped, ?_, hlisted⟩
    · obtain ⟨r, hr, hrcreates⟩ := hcreated
      rw [hdropped.2]
      constructor
      · rintro ⟨_, hmem, _⟩
        exact absurd hmem List.not_mem_nil
      · intro hnever
        rw [hnever r hr] at hrcreates
        exact absurd hrcreates Bool.false_ne_true
    · intro model
      rw [hmodel, hdropped.2, if_pos (List.any_eq_true.mpr hcreated)]
      rfl
  · have hnever : ∀ r ∈ appendedTo id window, r.creates = false := by
      intro r hr
      rw [← Bool.not_eq_true]
      exact fun htrue => hcreated ⟨r, hr, htrue⟩
    obtain ⟨r, hrecords, hdeletes⟩ :=
      recordsOf_eq_singleton_of_no_creation hquiet hnone hdeleted hq hfree hout hnever
    refine ⟨?_, fun hsome => absurd hsome hcreated, ?_, hlisted⟩
    · rw [hrecords]
      exact ⟨fun _ => hnever, fun _ => ⟨r, List.mem_singleton_self r, hdeletes⟩⟩
    · intro model
      rw [hmodel, hrecords, if_neg (fun hany => hcreated (List.any_eq_true.mp hany))]
      exact Record.applyTo_of_deletes hdeletes (model.get? id)

/-- A machine is created. -/
def machineCreation : Record :=
  { targetId := "vm", lifecycle := .create }

/-- The machine is deleted. -/
def machineDeletion : Record :=
  { targetId := "vm", lifecycle := .delete }

/-- A machine whose creation was released is renamed and deleted: its deletion is released. -/
theorem machineDeletion_released :
    ∃ r ∈ ((((fresh {}).after
        [.append (.ofSeconds 1000) machineCreation, .drain (.ofSeconds 1040)]).after
        [.append (.ofSeconds 1050)
          { targetId := "vm", fields := .ofList [("name", .string "db")] },
        .append (.ofSeconds 1051) { targetId := "disk", lifecycle := .create },
        .append (.ofSeconds 1052) machineDeletion]).drain (.ofSeconds 1091)).2.1.recordsOf "vm",
      r.deletes = true :=
  (deletion_released_iff_no_creation ⟨{}, _, rfl⟩ (by decide) (by decide) (by decide)
    (by decide) (.ofSeconds 1091) (.refl _)).1.mpr (by decide)

/-- The deletion of a known entity is not always released: a machine that is reported as created
once more before it is deleted counts as short-lived. -/
theorem not_every_deletion_of_known_released :
    ¬∀ (tuning : Tuning) (calls window : List Call) (id : String) (now : Instant),
      Call.reset ∉ calls → (fresh tuning).Establishes id calls →
      ((fresh tuning).after calls).isBlacklisted id = false →
      ((fresh tuning).after calls).held.get? id = none →
      (∀ call ∈ window, call.IsQuiet) →
      (∃ r ∈ appendedTo id window, r.deletes = true) →
      ∃ r ∈ (((fresh tuning).after (calls ++ window)).drain now).2.1.ordered,
        r.targetId = id ∧ r.deletes = true := by
  intro hreleased
  have hknown : (fresh {}).Establishes "vm"
      [.append (.ofSeconds 1000) machineCreation, .drain (.ofSeconds 1040)] :=
    ⟨[.append (.ofSeconds 1000) machineCreation], .ofSeconds 1040, [], rfl, by decide,
      neverRetires_of_no_drain (by decide)⟩
  have hlost := hreleased {} [.append (.ofSeconds 1000) machineCreation, .drain (.ofSeconds 1040)]
    [.append (.ofSeconds 1050) machineCreation, .append (.ofSeconds 1050) machineDeletion]
    "vm" (.ofSeconds 1050) (by decide) hknown (by decide) (by decide) (by decide) (by decide)
  exact absurd hlost (by decide)

end CloudCollector.Queue
