import CloudCollector.Proofs.Queue.Split

/-!
# Records applied to a model

Released records are applied to a model of all entities, one after the other. A record concerns
one entity, so a sequence of records does to an entity what the records of that entity do. A
merged record does what its two records do in turn, and so do the two parts of a split one.
-/

namespace CloudCollector

/-- The fields of every entity that exists, by id. -/
abbrev Model := Dict (Dict Json)

namespace Record

/-- The fields of an entity after a record of it: a deletion removes the entity, any other record
puts its fields over those that the entity has, and brings it into being if it is absent. -/
def applyTo (r : Record) (entity : Option (Dict Json)) : Option (Dict Json) :=
  if r.deletes then none else some ((entity.getD .empty).overlay r.fields)

/-- The fields of an entity after records of it, one after the other. -/
def applyEach (records : List Record) (entity : Option (Dict Json)) : Option (Dict Json) :=
  records.foldl (fun entity r => r.applyTo entity) entity

/-- Records may be applied in two parts. -/
theorem applyEach_append (first second : List Record) (entity : Option (Dict Json)) :
    applyEach (first ++ second) entity = applyEach second (applyEach first entity) :=
  List.foldl_append

/-- A record that deletes leaves no entity. -/
theorem applyTo_of_deletes {r : Record} (h : r.deletes = true) (entity : Option (Dict Json)) :
    r.applyTo entity = none := by
  rw [applyTo, if_pos h]

/-- A record that does not delete leaves an entity with its fields over those of before. -/
theorem applyTo_of_not_deletes {r : Record} (h : r.deletes = false) (entity : Option (Dict Json)) :
    r.applyTo entity = some ((entity.getD .empty).overlay r.fields) := by
  rw [applyTo, if_neg (by rw [h]; exact Bool.false_ne_true)]

/-- A merged record does what its two records do in turn, unless the first of them deletes: the
merged record deletes then, although the second may bring the entity back. -/
theorem applyTo_merge {r later : Record} (hr : r.deletes = false) (entity : Option (Dict Json)) :
    (r.merge later).applyTo entity = later.applyTo (r.applyTo entity) := by
  have hdeletes : (r.merge later).deletes = later.deletes := by
    rw [deletes_merge, hr, Bool.false_or]
  cases hlater : later.deletes with
  | true => rw [applyTo_of_deletes (hdeletes.trans hlater), applyTo_of_deletes hlater]
  | false =>
    rw [applyTo_of_not_deletes (hdeletes.trans hlater), applyTo_of_not_deletes hlater,
      applyTo_of_not_deletes hr, Option.getD_some, Dict.overlay_assoc]
    rfl

/-- The parts of a record do in turn what the record does, whatever references are split off. -/
theorem applyEach_parts {r : Record} (hr : (r.creates && r.deletes) = false) (ids : List String)
    (entity : Option (Dict Json)) : applyEach (r.parts ids) entity = r.applyTo entity := by
  cases hcreates : r.creates with
  | false => rw [parts, if_neg (by rw [hcreates]; exact Bool.false_ne_true)]; rfl
  | true =>
    have hdeletes : r.deletes = false := by simpa [hcreates] using hr
    have hwhole := r.withoutLinks_overlay_linked ids
    rw [parts, if_pos hcreates, applyTo_of_not_deletes hdeletes, ← hwhole]
    cases hlink : r.links? ids with
    | none =>
      have hlinked := links?_eq_none_iff.mp hlink
      have hwithout :
          (r.withoutLinks ids).fields.overlay .empty = (r.withoutLinks ids).fields := rfl
      rw [hlinked, hwithout]
      exact applyTo_of_not_deletes (r := r.withoutLinks ids) hdeletes entity
    | some link =>
      obtain ⟨_, rfl⟩ := links?_eq_some_iff.mp hlink
      rw [← Dict.overlay_assoc]
      have hfirst := applyTo_of_not_deletes (r := r.withoutLinks ids) hdeletes entity
      simp only [Option.toList_some, applyEach, List.foldl_cons, List.foldl_nil, hfirst]
      rfl

end Record

namespace Model

/-- The model after a record. -/
def apply (m : Model) (r : Record) : Model :=
  if r.deletes then m.erase r.targetId
  else m.update r.targetId .empty fun fields => fields.overlay r.fields

/-- The model after records, one after the other. -/
def applyAll (m : Model) (records : List Record) : Model :=
  records.foldl apply m

/-- A record changes its own entity only. -/
theorem get?_apply (m : Model) (r : Record) (id : String) :
    (m.apply r).get? id = if r.targetId = id then r.applyTo (m.get? id) else m.get? id := by
  rw [apply, Record.applyTo]
  by_cases hid : r.targetId = id
  · subst hid
    cases r.deletes <;> simp [Dict.update, Dict.getD]
  · have hne : ¬id = r.targetId := fun h => hid h.symm
    cases r.deletes <;> simp [Dict.update, hid, hne]

/-- What records do to an entity is what the records of that entity do. -/
theorem get?_applyAll (m : Model) (records : List Record) (id : String) :
    (m.applyAll records).get? id =
      Record.applyEach (records.filter fun r => r.targetId = id) (m.get? id) := by
  induction records generalizing m with
  | nil => rfl
  | cons r rest ih =>
    have hstep : m.applyAll (r :: rest) = (m.apply r).applyAll rest := rfl
    rw [hstep, ih, get?_apply]
    by_cases hid : r.targetId = id
    · rw [if_pos hid, List.filter_cons_of_pos (by simpa using hid)]
      rfl
    · rw [if_neg hid, List.filter_cons_of_neg (by simpa using hid)]

end Model

end CloudCollector
