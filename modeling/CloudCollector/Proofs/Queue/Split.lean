import CloudCollector.Queue.Release
import CloudCollector.Proofs.Record

/-!
# Records of one entity in a release

The order within a group of a release is left open, so statements about a release hold for
every arrangement of its groups. What concerns one entity does not depend on the arrangement:
the entries that are due have distinct ids, and splitting a creation keeps its two parts in
their order.
-/

namespace CloudCollector

namespace Release

/-- A release with the same records in each group, in any order. -/
structure Rearranges (a b : Release) : Prop where
  creates : a.creates.Perm b.creates
  links : a.links.Perm b.links
  updates : a.updates.Perm b.updates

/-- A release is an arrangement of itself. -/
theorem Rearranges.refl (a : Release) : a.Rearranges a :=
  ⟨.refl _, .refl _, .refl _⟩

/-- The records of one entity, in the order in which they are to be applied. -/
def recordsOf (release : Release) (id : String) : List Record :=
  release.ordered.filter fun r => r.targetId = id

/-- The records of one entity, group by group. -/
theorem recordsOf_eq_append (release : Release) (id : String) :
    release.recordsOf id =
      release.creates.filter (·.targetId = id) ++ release.links.filter (·.targetId = id) ++
        release.updates.filter (·.targetId = id) := by
  simp only [recordsOf, ordered, List.filter_append]

/-- At most one record of each group concerns an entity. -/
def Single (release : Release) : Prop :=
  ∀ id, (release.creates.filter (·.targetId = id)).length ≤ 1 ∧
    (release.links.filter (·.targetId = id)).length ≤ 1 ∧
    (release.updates.filter (·.targetId = id)).length ≤ 1

/-- Filtered down to at most one record, a list has one arrangement. -/
theorem filter_eq_of_perm {a b : List Record} (h : a.Perm b) {p : Record → Bool}
    (hb : (b.filter p).length ≤ 1) : a.filter p = b.filter p := by
  have hperm := h.filter p
  match hfilter : b.filter p with
  | [] => exact (hfilter ▸ hperm).eq_nil
  | [r] => exact (hfilter ▸ hperm).eq_singleton
  | _ :: _ :: _ => simp [hfilter] at hb

/-- The arrangement of the groups does not show in the records of one entity. -/
theorem Rearranges.recordsOf_eq {a b : Release} (h : a.Rearranges b) (hb : b.Single)
    (id : String) : a.recordsOf id = b.recordsOf id := by
  obtain ⟨hcreates, hlinks, hupdates⟩ := hb id
  rw [recordsOf_eq_append, recordsOf_eq_append, filter_eq_of_perm h.creates hcreates,
    filter_eq_of_perm h.links hlinks, filter_eq_of_perm h.updates hupdates]

/-- An arrangement of a release with at most one record of each kind is another such release. -/
theorem Rearranges.single {a b : Release} (h : a.Rearranges b) (hb : b.Single) : a.Single := by
  intro id
  obtain ⟨hcreates, hlinks, hupdates⟩ := hb id
  rw [filter_eq_of_perm h.creates hcreates, filter_eq_of_perm h.links hlinks,
    filter_eq_of_perm h.updates hupdates]
  exact ⟨hcreates, hlinks, hupdates⟩

/-- The entities whose references are split off: all created ones, if there are several. -/
def linkTargets (release : Release) : List String :=
  if release.creates.length < 2 then [] else release.creates.map (·.targetId)

/-- Splitting treats every creation alike, also where it does nothing. -/
theorem split_eq {release : Release} (h : release.links = []) :
    release.split =
      { creates := release.creates.map (·.withoutLinks release.linkTargets)
        links := release.creates.filterMap (·.links? release.linkTargets)
        updates := release.updates } := by
  obtain ⟨creates, links, updates⟩ := release
  simp only at h
  subst h
  simp only [split, linkTargets]
  split
  · have hcreates : creates.map (fun c => c.withoutLinks []) = creates := by simp
    have hlinks : creates.filterMap (fun c => c.links? []) = [] := by simp
    rw [hcreates, hlinks]
  · rfl

/-- A creation among several names a link target only if it is split. -/
theorem mem_linkTargets {release : Release} (h : 2 ≤ release.creates.length) {c : Record}
    (hc : c ∈ release.creates) : c.targetId ∈ release.linkTargets := by
  rw [linkTargets, if_neg (by omega)]
  exact List.mem_map_of_mem hc

end Release

/-- What a released record is split into: a creation loses its references to `ids` to a record
that follows it, any other record stays whole. -/
def Record.parts (r : Record) (ids : List String) : List Record :=
  if r.creates then r.withoutLinks ids :: (r.links? ids).toList else [r]

/-- A record that does not create and delete at once has a part that deletes exactly when it
deletes itself. -/
theorem Record.exists_deletes_parts_iff {r : Record} {ids : List String}
    (hr : (r.creates && r.deletes) = false) :
    (∃ p ∈ r.parts ids, p.deletes = true) ↔ r.deletes = true := by
  cases hcreates : r.creates with
  | false => simp [parts, hcreates]
  | true =>
    have hdeletes : r.deletes = false := by simpa [hcreates] using hr
    rw [hdeletes, iff_false_intro Bool.false_ne_true, iff_false, parts, if_pos hcreates]
    rintro ⟨p, hp, hpdeletes⟩
    rcases List.mem_cons.mp hp with rfl | hlink
    · rw [deletes_withoutLinks, hdeletes] at hpdeletes
      exact Bool.false_ne_true hpdeletes
    · obtain ⟨_, rfl⟩ := links?_eq_some_iff.mp (Option.mem_toList.mp hlink)
      exact Bool.false_ne_true hpdeletes

namespace Queue

section Group

variable {due : Dict Held} (hkeyed : ∀ id h, due.get? id = some h → h.record.targetId = id)

include hkeyed

/-- Of the records that are due at most one is of an entity, the one that is filed under its id. -/
private theorem filter_records (id : String) :
    ((due.values.map (·.record)).filter fun r => r.targetId = id) =
      (due.get? id).toList.map (·.record) := by
  rw [List.filter_map, ← Dict.filter_values_eq_toList hkeyed id]
  rfl

/-- Of the creations that are due at most one is of an entity. -/
private theorem filter_group_creates (id : String) :
    ((group due).creates.filter fun r => r.targetId = id) =
      ((due.get? id).toList.map (·.record)).filter (·.creates) := by
  rw [← filter_records hkeyed id, group, List.filter_filter, List.filter_filter]
  simp only [Bool.and_comm]

/-- The created record of an entity is what remains of the entry that is due for it. -/
theorem filter_creates_split (id : String) :
    ((group due).split.creates.filter fun r => r.targetId = id) =
      (due.get? id).elim [] fun h =>
        if h.record.creates then [h.record.withoutLinks (group due).linkTargets] else [] := by
  have hmap : ((group due).split.creates.filter fun r => r.targetId = id) =
      ((group due).creates.filter fun r => r.targetId = id).map
        (·.withoutLinks (group due).linkTargets) := by
    rw [Release.split_eq rfl, List.filter_map]
    rfl
  rw [hmap, filter_group_creates hkeyed]
  cases due.get? id with
  | none => rfl
  | some h => cases hcreates : h.record.creates <;> simp [hcreates]

/-- The link record of an entity has the references of the entry that is due for it. -/
theorem filter_links_split (id : String) :
    ((group due).split.links.filter fun r => r.targetId = id) =
      (due.get? id).elim [] fun h =>
        if h.record.creates then (h.record.links? (group due).linkTargets).toList else [] := by
  have hlinks : ((group due).split.links.filter fun r => r.targetId = id) =
      ((group due).creates.filter fun r => r.targetId = id).filterMap
        (·.links? (group due).linkTargets) := by
    rw [Release.split_eq rfl, List.filter_filterMap, List.filterMap_filter]
    congr 1
    funext c
    cases hlink : c.links? (group due).linkTargets with
    | none => simp
    | some link =>
      have hid := Record.targetId_of_links? hlink
      by_cases hc : c.targetId = id <;> simp [hid, hc, Option.filter]
  rw [hlinks, filter_group_creates hkeyed]
  cases due.get? id with
  | none => rfl
  | some h =>
    cases hcreates : h.record.creates with
    | false => simp [hcreates]
    | true => cases hlink : h.record.links? (group due).linkTargets <;> simp [hcreates, hlink]

/-- Any other record of an entity is the entry that is due for it. -/
theorem filter_updates_split (id : String) :
    ((group due).split.updates.filter fun r => r.targetId = id) =
      (due.get? id).elim [] fun h => if h.record.creates then [] else [h.record] := by
  have hupdates : ((group due).split.updates.filter fun r => r.targetId = id) =
      ((due.get? id).toList.map (·.record)).filter (!·.creates) := by
    rw [← filter_records hkeyed id, Release.split_eq rfl, group, List.filter_filter,
      List.filter_filter]
    simp only [Bool.and_comm]
  rw [hupdates]
  cases due.get? id with
  | none => rfl
  | some h => cases hcreates : h.record.creates <;> simp [hcreates]

/-- The records of an entity in a release are the parts of the entry that is due for it. -/
theorem recordsOf_split_group (id : String) :
    (group due).split.recordsOf id =
      (due.get? id).elim [] fun h => h.record.parts (group due).linkTargets := by
  rw [Release.recordsOf_eq_append, filter_creates_split hkeyed, filter_links_split hkeyed,
    filter_updates_split hkeyed]
  cases due.get? id with
  | none => rfl
  | some h => cases hcreates : h.record.creates <;> simp [Record.parts, hcreates]

/-- A release has at most one record of each kind for an entity. -/
theorem single_split_group : (group due).split.Single := by
  intro id
  rw [filter_creates_split hkeyed, filter_links_split hkeyed, filter_updates_split hkeyed]
  cases due.get? id with
  | none => simp
  | some h =>
    cases hcreates : h.record.creates with
    | false => simp [hcreates]
    | true => cases hlink : h.record.links? (group due).linkTargets <;> simp [hcreates, hlink]

end Group

end Queue

end CloudCollector
