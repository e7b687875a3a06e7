import CloudCollector.Proofs.Queue.Run

/-!
# What waits between two drains

Between two drains a queue only gathers. What waits for an entity is then the merge of the
records that arrived for it, and the lifecycle of a merge has every bit of its records, whatever
their order.
-/

namespace CloudCollector

namespace Record

/-- The merge of records, one after the other, onto what waits. -/
def mergeOnto (waiting : Option Record) (records : List Record) : Option Record :=
  records.foldl (fun waiting r => some (waiting.elim r fun first => first.merge r)) waiting

/-- Records may be merged in two parts. -/
theorem mergeOnto_append (waiting : Option Record) (first second : List Record) :
    mergeOnto waiting (first ++ second) = mergeOnto (mergeOnto waiting first) second :=
  List.foldl_append

/-- A merge creates exactly if one of its records does. -/
theorem any_creates_mergeOnto (waiting : Option Record) (records : List Record) :
    (mergeOnto waiting records).any (·.creates) =
      (waiting.any (·.creates) || records.any (·.creates)) := by
  induction records generalizing waiting with
  | nil => simp [mergeOnto]
  | cons r rest ih =>
    have hstep : mergeOnto waiting (r :: rest) =
        mergeOnto (some (waiting.elim r fun first => first.merge r)) rest := rfl
    rw [hstep, ih]
    cases waiting <;> simp [Bool.or_assoc]

/-- A merge deletes exactly if one of its records does. -/
theorem any_deletes_mergeOnto (waiting : Option Record) (records : List Record) :
    (mergeOnto waiting records).any (·.deletes) =
      (waiting.any (·.deletes) || records.any (·.deletes)) := by
  induction records generalizing waiting with
  | nil => simp [mergeOnto]
  | cons r rest ih =>
    have hstep : mergeOnto waiting (r :: rest) =
        mergeOnto (some (waiting.elim r fun first => first.merge r)) rest := rfl
    rw [hstep, ih]
    cases waiting <;> simp [Bool.or_assoc]

/-- A record carries another if it has every bit of its lifecycle and a value for each of its
fields. -/
structure Carries (whole part : Record) : Prop where
  creates : part.creates = true → whole.creates = true
  deletes : part.deletes = true → whole.deletes = true
  fields : ∀ name, part.fields.contains name = true → whole.fields.contains name = true

/-- A record carries itself. -/
theorem Carries.refl (r : Record) : r.Carries r :=
  ⟨id, id, fun _ => id⟩

/-- What is carried by a part is carried by the whole. -/
theorem Carries.trans {whole middle part : Record} (h : whole.Carries middle)
    (h' : middle.Carries part) : whole.Carries part :=
  ⟨h.creates ∘ h'.creates, h.deletes ∘ h'.deletes, fun name => h.fields name ∘ h'.fields name⟩

/-- A merge carries its first record. -/
theorem carries_merge_left (r later : Record) : (r.merge later).Carries r where
  creates hr := by rw [creates_merge, hr, Bool.true_or]
  deletes hr := by rw [deletes_merge, hr, Bool.true_or]
  fields name hr := by rw [merge, Dict.contains_overlay, hr, Bool.or_true]

/-- A merge carries its second record. -/
theorem carries_merge_right (r later : Record) : (r.merge later).Carries later where
  creates hlater := by rw [creates_merge, hlater, Bool.or_true]
  deletes hlater := by rw [deletes_merge, hlater, Bool.or_true]
  fields name hlater := by rw [merge, Dict.contains_overlay, hlater, Bool.true_or]

/-- What waits is carried by every merge onto it. -/
theorem carries_of_mergeOnto_eq_some {first whole : Record} {records : List Record}
    (h : mergeOnto (some first) records = some whole) : whole.Carries first := by
  induction records generalizing first with
  | nil =>
    obtain rfl := Option.some.inj h
    exact .refl first
  | cons r rest ih =>
    have hrest : whole.Carries (first.merge r) := ih h
    exact hrest.trans (first.carries_merge_left r)

end Record

namespace Queue

/-- A call that lets nothing leave: it appends a record or changes the windows. -/
def Call.IsQuiet : Call → Prop
  | .append _ _ | .setTuning _ => True
  | .drain _ | .reset => False

instance (call : Call) : Decidable call.IsQuiet :=
  match call with
  | .append _ _ | .setTuning _ => isTrue trivial
  | .drain _ | .reset => isFalse id

/-- A quiet call appends a record or tunes the queue. -/
theorem Call.IsQuiet.eq_append_or_setTuning {call : Call} (h : call.IsQuiet) :
    (∃ now r, call = .append now r) ∨ ∃ tuning, call = .setTuning tuning := by
  cases call with
  | append now r => exact .inl ⟨now, r, rfl⟩
  | setTuning tuning => exact .inr ⟨tuning, rfl⟩
  | drain now => exact h.elim
  | reset => exact h.elim

/-- A quiet call merges its record onto what waits for the entity. -/
theorem record_held_perform {q : Queue} {call : Call} (hquiet : call.IsQuiet) (id : String) :
    ((q.perform call).held.get? id).map (·.record) =
      Record.mergeOnto ((q.held.get? id).map (·.record)) (appendedTo id [call]) := by
  rcases hquiet.eq_append_or_setTuning with ⟨now, r, rfl⟩ | ⟨tuning, rfl⟩
  · rw [perform, get?_held_append]
    by_cases hid : r.targetId = id
    · subst hid
      rw [appendedTo_singleton_append, if_pos rfl]
      cases q.held.get? r.targetId <;> rfl
    · rw [appendedTo_singleton_eq_nil (fun s hs => Option.some.inj hs ▸ hid), if_neg (Ne.symm hid)]
      rfl
  · rfl

/-- After quiet calls, what waits for an entity is the merge of its records. -/
theorem record_held_after {q : Queue} {calls : List Call} (hquiet : ∀ call ∈ calls, call.IsQuiet)
    (id : String) :
    ((q.after calls).held.get? id).map (·.record) =
      Record.mergeOnto ((q.held.get? id).map (·.record)) (appendedTo id calls) := by
  induction calls generalizing q with
  | nil => rfl
  | cons call rest ih =>
    obtain ⟨hcall, hrest⟩ := List.forall_mem_cons.mp hquiet
    have happended : appendedTo id (call :: rest) = appendedTo id [call] ++ appendedTo id rest :=
      appendedTo_append id [call] rest
    rw [after_cons, ih hrest, record_held_perform hcall, happended, Record.mergeOnto_append]

/-- Quiet calls leave the blacklist alone. -/
theorem blacklist_after {q : Queue} {calls : List Call} (hquiet : ∀ call ∈ calls, call.IsQuiet) :
    (q.after calls).blacklist = q.blacklist := by
  induction calls generalizing q with
  | nil => rfl
  | cons call rest ih =>
    obtain ⟨hcall, hrest⟩ := List.forall_mem_cons.mp hquiet
    rw [after_cons, ih hrest]
    rcases hcall.eq_append_or_setTuning with ⟨now, r, rfl⟩ | ⟨tuning, rfl⟩
    · rfl
    · rfl

end Queue

end CloudCollector
