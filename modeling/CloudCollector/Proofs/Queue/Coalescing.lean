import CloudCollector.Proofs.Queue.DependencyOrder
import Mathlib.Data.List.Induction

/-!
# What a released record is made of

The queue keeps one entry for each entity and merges what arrives into it. Along a run, an entry
therefore stands for the records that arrived since the last entry of its entity left the queue:
released, dropped or forgotten. A released record is what these records come to together, and
nothing that it is made of is part of a later one.
-/

namespace CloudCollector

namespace Record

/-- A record is what the records of an entity come to together, of which there is at least one:
the first says which entity it is and where it stands, each field has the value that was set last,
and every bit of a lifecycle counts. -/
structure Coalesces (whole : Record) (parts : List Record) : Prop where
  first : ∃ r, parts.head? = some r ∧ whole.targetId = r.targetId ∧ whole.place = r.place
  fields : ∀ name, whole.fields.get? name = parts.reverse.findSome? fun r => r.fields.get? name
  lifecycle : whole.lifecycle = .ofBits (parts.any (·.creates)) (parts.any (·.deletes))

/-- A record by itself is what it comes to. -/
theorem coalesces_singleton (r : Record) : r.Coalesces [r] where
  first := ⟨r, rfl, rfl, rfl⟩
  fields name := by cases hfield : r.fields.get? name <;> simp [hfield]
  lifecycle := by
    apply Lifecycle.ext
    · simp [creates]
    · simp [deletes]

namespace Coalesces

variable {whole : Record} {parts : List Record} (h : whole.Coalesces parts)

include h

/-- A record that was put together creates if one of its parts does. -/
theorem creates_eq : whole.creates = parts.any (·.creates) := by
  rw [Record.creates, h.lifecycle, Lifecycle.creates_ofBits]

/-- A record that was put together deletes if one of its parts does. -/
theorem deletes_eq : whole.deletes = parts.any (·.deletes) := by
  rw [Record.deletes, h.lifecycle, Lifecycle.deletes_ofBits]

/-- A merge is what the parts and the merged record come to. -/
theorem merge (r : Record) : (whole.merge r).Coalesces (parts ++ [r]) where
  first := by
    obtain ⟨first, hfirst, hid, hplace⟩ := h.first
    exact ⟨first, by rw [List.head?_append, hfirst, Option.some_or], hid, hplace⟩
  fields name := by
    have hoverlay : (whole.merge r).fields.get? name =
        (r.fields.get? name).or (whole.fields.get? name) := Dict.get?_overlay _ _ _
    rw [hoverlay, h.fields, List.reverse_append, List.reverse_singleton, List.singleton_append,
      List.findSome?_cons]
    cases r.fields.get? name <;> rfl
  lifecycle := by
    apply Lifecycle.ext
    · rw [← Record.creates, creates_merge, h.creates_eq]
      simp
    · rw [← Record.deletes, deletes_merge, h.deletes_eq]
      simp

end Coalesces

end Record

/-- The records of an entity as they waited: each creation with the references of its link record
put back, and every record of the last group. -/
def Release.wholesOf (release : Release) (id : String) : List Record :=
  (release.creates.filter (·.targetId = id)).map
      (fun c => { c with fields := c.fields.overlay (release.linkFields id) }) ++
    release.updates.filter (·.targetId = id)

/-- The created record of an entity with the references of its link record put back, if the release
has one. -/
def Release.createdOf (release : Release) (id : String) : List Record :=
  (release.creates.filter (·.targetId = id)).map fun c =>
    { c with fields := c.fields.overlay (release.linkFields id) }

/-- The record of an entity in the last group, if the release has one. -/
def Release.updatedOf (release : Release) (id : String) : List Record :=
  release.updates.filter (·.targetId = id)

/-- The whole records of an entity in a release are among its creations and its updates. -/
theorem Release.wholesOf_eq_append (release : Release) (id : String) :
    release.wholesOf id = release.createdOf id ++ release.updatedOf id := rfl

namespace Queue

/-- The entry of an entity leaves the queue with a call. -/
def Departs (q : Queue) (id : String) (call : Call) : Prop :=
  q.held.contains id = true ∧ (q.perform call).held.contains id = false

instance (q : Queue) (id : String) (call : Call) : Decidable (q.Departs id call) :=
  inferInstanceAs (Decidable (_ ∧ _))

/-- The calls since the entry of an entity last left the queue, when `since` are those before the
run. -/
def callsSince (q : Queue) (id : String) (since : List Call) : List Call → List Call
  | [] => since
  | call :: rest =>
    (q.perform call).callsSince id (if q.Departs id call then [] else since ++ [call]) rest

/-- The calls of a run since the entry of an entity last left the queue, or all of them if none
ever did. -/
def sinceDeparture (q : Queue) (id : String) (calls : List Call) : List Call :=
  q.callsSince id [] calls

/-- What was called since the last departure may be followed in two parts. -/
theorem callsSince_append (q : Queue) (id : String) (since first second : List Call) :
    q.callsSince id since (first ++ second) =
      (q.after first).callsSince id (q.callsSince id since first) second := by
  induction first generalizing q since with
  | nil => rfl
  | cons call rest ih => exact ih (q.perform call) _

/-- A call that lets an entity depart begins its window anew, and any other one ends it. -/
theorem sinceDeparture_concat (q : Queue) (id : String) (calls : List Call) (call : Call) :
    q.sinceDeparture id (calls ++ [call]) =
      if (q.after calls).Departs id call then [] else q.sinceDeparture id calls ++ [call] :=
  callsSince_append q id [] calls [call]

/-- The calls since the last departure end the run. -/
theorem callsSince_suffix (q : Queue) (id : String) (since calls : List Call) :
    q.callsSince id since calls <:+ since ++ calls := by
  induction calls generalizing q since with
  | nil => rw [List.append_nil]; exact List.suffix_refl since
  | cons call rest ih =>
    rw [callsSince]
    split
    · exact (ih _ []).trans ((List.suffix_cons call rest).trans (List.suffix_append since _))
    · have hsuffix := ih (q.perform call) (since ++ [call])
      rwa [List.append_assoc] at hsuffix

/-- After a departure only what follows it counts. -/
theorem sinceDeparture_suffix_of_departs {q : Queue} {id : String} {calls : List Call}
    {call : Call} (h : (q.after calls).Departs id call) (later : List Call) :
    q.sinceDeparture id (calls ++ call :: later) <:+ later := by
  have hnothing : q.callsSince id [] (calls ++ [call]) = [] :=
    (sinceDeparture_concat q id calls call).trans (if_pos h)
  have hsplit : calls ++ call :: later = (calls ++ [call]) ++ later := by simp
  rw [sinceDeparture, hsplit, callsSince_append, hnothing]
  exact callsSince_suffix _ id [] later

/-- What waits for an entity stands for the records that arrived: it is what they come to, and
nothing waits if there are none. -/
def StandsFor (waiting : Option Held) (arrived : List Record) : Prop :=
  waiting.elim (arrived = []) fun h => h.record.Coalesces arrived

/-- A further record is added to what waits. -/
theorem StandsFor.arrive {waiting : Option Held} {arrived : List Record}
    (h : StandsFor waiting arrived) (now : Instant) (r : Record) :
    StandsFor (some (arrive now r waiting)) (arrived ++ [r]) := by
  cases waiting with
  | none =>
    have hnil : arrived = [] := h
    rw [hnil]
    exact r.coalesces_singleton
  | some held =>
    have hcoalesces : held.record.Coalesces arrived := h
    exact hcoalesces.merge r

/-- A call that appends nothing lets the entry of an entity leave or does not touch it. -/
theorem get?_held_perform_of_not_departs {q : Queue} {id : String} {call : Call}
    (hrecord : call.record? = none) (hstays : ¬q.Departs id call) :
    (q.perform call).held.get? id = q.held.get? id := by
  cases hafter : (q.perform call).held.get? id with
  | none =>
    -- an entry that waited before would have left
    have hbefore : q.held.contains id = false := by
      rw [← Bool.not_eq_true]
      intro hbefore
      exact hstays ⟨hbefore, by rw [Dict.contains_eq_isSome, hafter]; rfl⟩
    rw [Dict.contains_eq_isSome, Option.isSome_eq_false_iff, Option.isNone_iff_eq_none] at hbefore
    exact hbefore.symm
  | some h =>
    cases call with
    | append now r => cases hrecord
    | setTuning tuning => exact hafter.symm
    | drain now => exact (get?_held_drain_eq_some_iff.mp hafter).1.symm
    | reset =>
      rw [Queue.perform, reset, Dict.get?_empty] at hafter
      cases hafter

/-- As long as the entry of an entity does not leave, it stands for what has arrived. -/
theorem StandsFor.perform {q : Queue} {id : String} {arrived : List Record} {call : Call}
    (h : StandsFor (q.held.get? id) arrived) (hstays : ¬q.Departs id call) :
    StandsFor ((q.perform call).held.get? id) (arrived ++ appendedTo id [call]) := by
  cases hrecord : call.record? with
  | none =>
    have hnothing : appendedTo id [call] = [] :=
      appendedTo_singleton_eq_nil fun r hr => by rw [hrecord] at hr; cases hr
    rwa [get?_held_perform_of_not_departs hrecord hstays, hnothing, List.append_nil]
  | some r =>
    obtain ⟨now, rfl⟩ : ∃ now, call = .append now r := by
      cases call <;> simp_all [Call.record?]
    rw [Queue.perform, get?_held_append]
    by_cases hid : id = r.targetId
    · subst hid
      rw [if_pos rfl, appendedTo_singleton_append]
      exact h.arrive now r
    · rw [if_neg hid, appendedTo_singleton_eq_nil fun s hs => Option.some.inj hs ▸ Ne.symm hid,
        List.append_nil]
      exact h

/-- Along every run, what waits for an entity stands for what has arrived since its last entry
left. -/
theorem standsFor_after (tuning : Tuning) (id : String) (calls : List Call) :
    StandsFor (((fresh tuning).after calls).held.get? id)
      (appendedTo id ((fresh tuning).sinceDeparture id calls)) := by
  induction calls using List.reverseRecOn with
  | nil => rfl
  | append_singleton calls call ih =>
    rw [after_concat, sinceDeparture_concat]
    split
    · next hdeparts =>
      have hgone := hdeparts.2
      rw [Dict.contains_eq_isSome, Option.isSome_eq_false_iff, Option.isNone_iff_eq_none] at hgone
      rw [hgone]
      rfl
    · next hstays =>
      rw [appendedTo_append]
      exact ih.perform hstays

/-- What a drain releases as created of an entity, references put back, is the entry that is due for
it, if that creates. -/
theorem Keyed.createdOf_drain {q : Queue} (hq : q.Keyed) {now : Instant} {out : Release}
    (hout : out.Rearranges (q.drain now).2.1) (id : String) :
    out.createdOf id =
      ((q.due now).get? id).elim [] fun h => if h.record.creates then [h.record] else [] := by
  rw [Release.createdOf, hq.filter_creates_drain hout]
  cases hdue : (q.due now).get? id with
  | none => rfl
  | some h =>
    cases hcreates : h.record.creates with
    | false => simp [hcreates]
    | true =>
      simp [hcreates, linkFields_drain hout hq hdue hcreates, Record.withoutLinks_overlay_linked]
      rfl

/-- What a drain releases of an entity in the last group is the entry that is due for it, if that
does not create. -/
theorem Keyed.updatedOf_drain {q : Queue} (hq : q.Keyed) {now : Instant} {out : Release}
    (hout : out.Rearranges (q.drain now).2.1) (id : String) :
    out.updatedOf id =
      ((q.due now).get? id).elim [] fun h => if h.record.creates then [] else [h.record] :=
  hq.filter_updates_drain hout id

/-- What a drain releases of an entity, references put back, is the entry that is due for it. -/
theorem Keyed.wholesOf_drain {q : Queue} (hq : q.Keyed) {now : Instant} {out : Release}
    (hout : out.Rearranges (q.drain now).2.1) (id : String) :
    out.wholesOf id = ((q.due now).get? id).toList.map (·.record) := by
  rw [Release.wholesOf_eq_append, hq.createdOf_drain hout, hq.updatedOf_drain hout]
  cases (q.due now).get? id with
  | none => rfl
  | some h => cases hcreates : h.record.creates <;> simp [hcreates]

/-- An entry that is due leaves. -/
theorem departs_of_due {q : Queue} {now : Instant} {id : String} {h : Held}
    (hdue : (q.due now).get? id = some h) : q.Departs id (.drain now) := by
  obtain ⟨hheld, _, _, hisdue⟩ := get?_due_eq_some_iff.mp hdue
  refine ⟨by rw [Dict.contains_eq_isSome, hheld]; rfl, ?_⟩
  rw [Dict.contains_eq_isSome, perform, get?_held_drain, hheld, Option.filter_some]
  simp [spares, hisdue]

/-- **Nothing is lost, repeated or reordered in a released record.** After any run of a queue, if
a drain releases anything of an entity, in whatever arrangement, then it releases exactly one
record of it, the references of a link record put back. That record is what the records come to
that arrived since the last entry of the entity left the queue, at least one. What any later
record is made of arrives after this drain, so no arrival is part of two. -/
theorem released_coalesces_arrivals (tuning : Tuning) (calls : List Call) (id : String)
    (now : Instant) {out : Release}
    (hout : out.Rearranges (((fresh tuning).after calls).drain now).2.1)
    (hreleased : out.recordsOf id ≠ []) :
    ∃ whole, out.wholesOf id = [whole] ∧
      whole.Coalesces (appendedTo id ((fresh tuning).sinceDeparture id calls)) ∧
      ∀ later, (fresh tuning).sinceDeparture id (calls ++ .drain now :: later) <:+ later := by
  have hkeyed := (keyed_fresh tuning).after calls
  obtain ⟨h, hdue⟩ :=
    (hkeyed.exists_mem_recordsOf_iff hout).mp (List.exists_mem_of_ne_nil _ hreleased)
  have hwaiting := standsFor_after tuning id calls
  rw [(get?_due_eq_some_iff.mp hdue).1] at hwaiting
  refine ⟨h.record, ?_, hwaiting, ?_⟩
  · rw [hkeyed.wholesOf_drain hout, hdue]
    rfl
  · exact sinceDeparture_suffix_of_departs (departs_of_due hdue)

/-- A machine of which little is known. -/
def guest : Record :=
  { targetId := "vm", lifecycle := .create, place := { module := "Compute" },
    fields := .ofList [("set_host", .string "host"), ("size", .string "1")] }

/-- The machine gets a name, and another size. -/
def guestDetails : Record :=
  { targetId := "vm", fields := .ofList [("name", .string "web"), ("size", .string "2")] }

/-- The machine gets another name. -/
def guestRename : Record :=
  { targetId := "vm", place := { module := "Renaming" },
    fields := .ofList [("name", .string "db")] }

/-- The machine is seen, forgotten and seen again with its host, and described in between drains. -/
def guestCalls : List Call :=
  [.append (.ofSeconds 4990) guestRename,
    .reset,
    .append (.ofSeconds 5000) guest,
    .append (.ofSeconds 5000) { targetId := "host", lifecycle := .create },
    .drain (.ofSeconds 5010),
    .append (.ofSeconds 5011) guestDetails,
    .setTuning { shortlived := .ofSeconds 35 },
    .append (.ofSeconds 5009) guestRename]

/-- The creation of the machine and its link record come to what arrived since the reset. -/
theorem guest_coalesces :
    ∃ whole, (((fresh {}).after guestCalls).drain (.ofSeconds 5035)).2.1.wholesOf "vm" = [whole] ∧
      whole.Coalesces [guest, guestDetails, guestRename] := by
  obtain ⟨whole, hwhole, hcoalesces, _⟩ :=
    released_coalesces_arrivals {} guestCalls "vm" (.ofSeconds 5035) (.refl _) (by decide)
  have harrived : appendedTo "vm" ((fresh {}).sinceDeparture "vm" guestCalls) =
      [guest, guestDetails, guestRename] := by decide
  exact ⟨whole, hwhole, harrived ▸ hcoalesces⟩

end Queue

end CloudCollector
