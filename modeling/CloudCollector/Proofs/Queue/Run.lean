import CloudCollector.Proofs.Queue.Drain

/-!
# Runs of a queue

A queue lives through a sequence of calls, each with the reading of the clock that it takes.
Calls come in any order and clocks may step back unless a statement says otherwise. Every queue
that a run leads to is keyed: it files each entry under the id of its record.
-/

namespace CloudCollector.Queue

/-- A call on a queue, with the time that the clock shows. -/
inductive Call where
  | append (now : Instant) (record : Record)
  | setTuning (tuning : Tuning)
  | drain (now : Instant)
  | reset
  deriving DecidableEq

/-- The record that a call appends. -/
def Call.record? : Call → Option Record
  | .append _ record => some record
  | _ => none

/-- The time that a call reads from the clock. -/
def Call.time? : Call → Option Instant
  | .append now _ => some now
  | .drain now => some now
  | _ => none

/-- The time of a drain. -/
def Call.drainTime? : Call → Option Instant
  | .drain now => some now
  | _ => none

/-- A call tells the time of a drain if it is that drain. -/
theorem Call.drainTime?_eq_some_iff {call : Call} {now : Instant} :
    call.drainTime? = some now ↔ call = .drain now := by
  cases call <;> simp [Call.drainTime?]

/-- The queue after a call. -/
def perform (q : Queue) : Call → Queue
  | .append now record => q.append now record
  | .setTuning tuning => q.setTuning tuning
  | .drain now => (q.drain now).1
  | .reset => q.reset

/-- The queue after a run of calls. -/
def after (q : Queue) (calls : List Call) : Queue :=
  calls.foldl perform q

/-- What the drains of a run release, one after the other. -/
def releases (q : Queue) : List Call → List Release
  | [] => []
  | call :: rest =>
    match call with
    | .drain now => (q.drain now).2.1 :: releases (q.perform call) rest
    | _ => releases (q.perform call) rest

/-- The records that a run appends. -/
def appended (calls : List Call) : List Record :=
  calls.filterMap Call.record?

/-- The records that a run appends for one entity. -/
def appendedTo (id : String) (calls : List Call) : List Record :=
  (appended calls).filter fun r => r.targetId = id

/-- A queue that has seen no calls. -/
def fresh (tuning : Tuning) : Queue :=
  { tuning }

/-- Every drain among the calls has a property, given the calls before it and its time. -/
def EachDrain (calls : List Call) (p : List Call → Instant → Prop) : Prop :=
  ∀ earlier now later, calls = earlier ++ .drain now :: later → p earlier now

/-- A queue that some run of a fresh queue leads to. -/
def Reachable (q : Queue) : Prop :=
  ∃ tuning calls, q = (fresh tuning).after calls

/-- No calls change nothing. -/
@[simp]
theorem after_nil (q : Queue) : q.after [] = q := rfl

/-- A run makes its first call and then the rest. -/
theorem after_cons (q : Queue) (call : Call) (calls : List Call) :
    q.after (call :: calls) = (q.perform call).after calls := rfl

/-- A run may be made in two parts. -/
theorem after_append (q : Queue) (first second : List Call) :
    q.after (first ++ second) = (q.after first).after second :=
  List.foldl_append

/-- A run makes its last call after the others. -/
theorem after_concat (q : Queue) (calls : List Call) (call : Call) :
    q.after (calls ++ [call]) = (q.after calls).perform call := by
  rw [after_append, after_cons, after_nil]

/-- The drains of two runs in succession release what they release in each. -/
theorem releases_append (q : Queue) (first second : List Call) :
    q.releases (first ++ second) = q.releases first ++ (q.after first).releases second := by
  induction first generalizing q with
  | nil => rfl
  | cons call rest ih => cases call <;> simp [releases, ih, after_cons]

/-- What a run in two parts appends for an entity is what its parts append. -/
theorem appendedTo_append (id : String) (first second : List Call) :
    appendedTo id (first ++ second) = appendedTo id first ++ appendedTo id second := by
  rw [appendedTo, appended, List.filterMap_append, List.filter_append]
  rfl

/-- A call that appends a record of the entity adds it to the end. -/
theorem appendedTo_singleton_append (now : Instant) (r : Record) :
    appendedTo r.targetId [.append now r] = [r] := by
  simp [appendedTo, appended, Call.record?]

/-- Calls that append records of other entities, or nothing, do not count. -/
theorem appendedTo_singleton_eq_nil {id : String} {call : Call}
    (h : ∀ r, call.record? = some r → r.targetId ≠ id) : appendedTo id [call] = [] := by
  cases hrecord : call.record? with
  | none => simp [appendedTo, appended, hrecord]
  | some r => simp [appendedTo, appended, hrecord, h r hrecord]

/-- Without calls there are no drains. -/
theorem eachDrain_nil (p : List Call → Instant → Prop) : EachDrain [] p := by
  intro earlier now later hcalls
  exact absurd hcalls (by simp)

/-- The first call has to be judged only if it is a drain, and stands before all others. -/
theorem eachDrain_cons_iff {call : Call} {calls : List Call} {p : List Call → Instant → Prop} :
    EachDrain (call :: calls) p ↔ (∀ now ∈ call.drainTime?, p [] now) ∧
      EachDrain calls fun earlier now => p (call :: earlier) now := by
  constructor
  · intro h
    refine ⟨fun now hcall => ?_, fun earlier now later hcalls => ?_⟩
    · rw [Option.mem_def, Call.drainTime?_eq_some_iff] at hcall
      exact h [] now calls (by rw [hcall, List.nil_append])
    · exact h (call :: earlier) now later (by rw [hcalls, List.cons_append])
  · rintro ⟨hcall, hcalls⟩ earlier now later heq
    cases earlier with
    | nil =>
      obtain ⟨rfl, -⟩ := List.cons.inj heq
      exact hcall now rfl
    | cons first earlier =>
      obtain ⟨rfl, hrest⟩ := List.cons.inj heq
      exact hcalls earlier now later hrest

/-- The last call has to be judged only if it is a drain. -/
theorem eachDrain_concat_iff {calls : List Call} {call : Call} {p : List Call → Instant → Prop} :
    EachDrain (calls ++ [call]) p ↔
      EachDrain calls p ∧ ∀ now ∈ call.drainTime?, p calls now := by
  constructor
  · intro h
    refine ⟨fun earlier now later hcalls => ?_, fun now hcall => ?_⟩
    · exact h earlier now (later ++ [call]) (by rw [hcalls, List.append_assoc, List.cons_append])
    · rw [Option.mem_def, Call.drainTime?_eq_some_iff] at hcall
      exact h calls now [] (by rw [hcall])
  · rintro ⟨hcalls, hcall⟩ earlier now later heq
    rcases List.eq_nil_or_concat later with rfl | ⟨middle, last, rfl⟩
    · obtain ⟨rfl, hlast⟩ := List.append_inj' heq rfl
      obtain ⟨rfl, -⟩ := List.cons.inj hlast
      exact hcall now rfl
    · rw [List.concat_eq_append, ← List.cons_append, ← List.append_assoc] at heq
      exact hcalls earlier now middle (List.append_inj' heq rfl).1

/-- Whether every drain among the calls has a property is decided call by call. -/
instance EachDrain.decidable : (calls : List Call) → (p : List Call → Instant → Prop) →
    [∀ earlier now, Decidable (p earlier now)] → Decidable (EachDrain calls p)
  | [], p, _ => isTrue (eachDrain_nil p)
  | call :: calls, p, _ =>
    have := decidable calls fun earlier now => p (call :: earlier) now
    decidable_of_iff _ eachDrain_cons_iff.symm

/-- What waits for an entity after a record arrives. -/
theorem get?_held_append (q : Queue) (now : Instant) (r : Record) (id : String) :
    (q.append now r).held.get? id =
      if id = r.targetId then some (arrive now r (q.held.get? id)) else q.held.get? id := by
  rw [append, Dict.get?_insert]
  by_cases hid : id = r.targetId
  · rw [if_pos hid, if_pos hid, hid]
  · rw [if_neg hid, if_neg hid]

/-- A fresh queue is keyed: nothing waits in it. -/
theorem keyed_fresh (tuning : Tuning) : (fresh tuning).Keyed := by
  intro id h hheld
  rw [fresh, Dict.get?_empty] at hheld
  cases hheld

/-- A merged record keeps the id of the first. -/
theorem targetId_arrive {now : Instant} {r : Record} {waiting : Option Held}
    (h : ∀ held, waiting = some held → held.record.targetId = r.targetId) :
    (arrive now r waiting).record.targetId = r.targetId := by
  cases waiting with
  | none => rfl
  | some held => exact h held rfl

/-- Every call keeps a queue keyed. -/
theorem Keyed.perform {q : Queue} (hq : q.Keyed) (call : Call) : (q.perform call).Keyed := by
  intro id h hheld
  cases call with
  | append now r =>
    rw [Queue.perform, get?_held_append] at hheld
    by_cases hid : id = r.targetId
    · rw [if_pos hid, Option.some.injEq] at hheld
      rw [← hheld, hid]
      exact targetId_arrive fun held hwaiting => hq _ held hwaiting
    · rw [if_neg hid] at hheld
      exact hq id h hheld
  | setTuning tuning => exact hq id h hheld
  | drain now => exact hq id h (get?_held_drain_eq_some_iff.mp hheld).1
  | reset =>
    rw [Queue.perform, reset, Dict.get?_empty] at hheld
    cases hheld

/-- Every run keeps a queue keyed. -/
theorem Keyed.after {q : Queue} (hq : q.Keyed) (calls : List Call) : (q.after calls).Keyed := by
  induction calls generalizing q with
  | nil => exact hq
  | cons call rest ih => exact ih (hq.perform call)

/-- Every queue that a run leads to is keyed. -/
theorem Reachable.keyed {q : Queue} (hq : q.Reachable) : q.Keyed := by
  obtain ⟨tuning, calls, rfl⟩ := hq
  exact (keyed_fresh tuning).after calls

end CloudCollector.Queue
