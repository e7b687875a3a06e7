import CloudCollector.Model.Record
import CloudCollector.Proofs.Dict

/-!
# Merged and split records

A merged record has every lifecycle bit of its two records. The references of a record to given
entities can be moved into a record of their own. Nothing is lost: the two parts have no field
in common, and together they are the record.
-/

namespace CloudCollector.Record

/-- A merged record creates if one of its two records does. -/
@[simp]
theorem creates_merge (r later : Record) :
    (r.merge later).creates = (r.creates || later.creates) :=
  Lifecycle.creates_merge r.lifecycle later.lifecycle

/-- A merged record deletes if one of its two records does. -/
@[simp]
theorem deletes_merge (r later : Record) :
    (r.merge later).deletes = (r.deletes || later.deletes) :=
  Lifecycle.deletes_merge r.lifecycle later.lifecycle

/-- A record names an entity exactly when one of its reference fields does. -/
theorem mem_referencedIds_iff {r : Record} {id : String} :
    id ∈ r.referencedIds ↔
      ∃ name value, r.fields.get? name = some value ∧ isReference name = true ∧
        id ∈ namedIds value := by
  simp only [referencedIds, references, List.mem_flatMap, List.mem_map, List.mem_filter,
    Prod.exists, ← Dict.mem_entries_iff]
  constructor
  · rintro ⟨_, _, ⟨name, value, ⟨hfield, href⟩, heq⟩, hid⟩
    obtain ⟨rfl, rfl⟩ := Prod.mk.inj heq
    exact ⟨name, value, hfield, href, hid⟩
  · rintro ⟨name, value, hfield, href, hid⟩
    exact ⟨name, namedIds value, ⟨name, value, ⟨hfield, href⟩, rfl⟩, hid⟩

/-- A field refers to one of the entities exactly when it is a reference that names one. -/
theorem linksTo_iff {ids : List String} {name : String} {value : Json} :
    linksTo ids name value = true ↔
      isReference name = true ∧ ∃ id ∈ namedIds value, id ∈ ids := by
  simp only [linksTo, Bool.and_eq_true, List.any_eq_true, List.contains_eq_mem, decide_eq_true_eq]

/-- Nothing links to none of the ids. -/
theorem linksTo_nil (name : String) (value : Json) : linksTo [] name value = false := by
  rw [Bool.eq_false_iff, ne_eq, linksTo_iff]
  rintro ⟨_, _, _, hmem⟩
  exact List.not_mem_nil hmem

/-- Whether a field refers to one of some entities depends on those that it names. -/
theorem linksTo_congr {ids ids' : List String} {name : String} {value : Json}
    (h : isReference name = true → ∀ id ∈ namedIds value, id ∈ ids ↔ id ∈ ids') :
    linksTo ids name value = linksTo ids' name value := by
  rw [Bool.eq_iff_iff, linksTo_iff, linksTo_iff]
  refine and_congr_right fun href => exists_congr fun id => and_congr_right fun hnamed => ?_
  exact h href id hnamed

/-- A record without its links is of the same entity. -/
@[simp]
theorem targetId_withoutLinks (r : Record) (ids : List String) :
    (r.withoutLinks ids).targetId = r.targetId := rfl

/-- A record without its links creates what it did with them. -/
@[simp]
theorem creates_withoutLinks (r : Record) (ids : List String) :
    (r.withoutLinks ids).creates = r.creates := rfl

/-- A record without its links deletes what it did with them. -/
@[simp]
theorem deletes_withoutLinks (r : Record) (ids : List String) :
    (r.withoutLinks ids).deletes = r.deletes := rfl

/-- What remains names none of the entities. -/
theorem not_mem_referencedIds_withoutLinks {r : Record} {ids : List String} {id : String}
    (hid : id ∈ ids) : id ∉ (r.withoutLinks ids).referencedIds := by
  rw [mem_referencedIds_iff]
  rintro ⟨name, value, hfield, href, hnamed⟩
  rw [withoutLinks, Dict.get?_filter, Option.filter_eq_some_iff] at hfield
  have hlinks : linksTo ids name value = true := linksTo_iff.mpr ⟨href, id, hnamed, hid⟩
  simp [hlinks] at hfield

/-- The references to the entities, which may be none. -/
def linked (r : Record) (ids : List String) : Dict Json :=
  r.fields.filter (linksTo ids)

/-- How a record is divided depends on which of the entities that it names are asked for. -/
theorem withoutLinks_and_linked_congr {r : Record} {ids ids' : List String}
    (h : ∀ id ∈ r.referencedIds, id ∈ ids ↔ id ∈ ids') :
    r.withoutLinks ids = r.withoutLinks ids' ∧ r.linked ids = r.linked ids' := by
  have hlinks : ∀ name value, r.fields.get? name = some value →
      linksTo ids name value = linksTo ids' name value := fun name value hfield =>
    linksTo_congr fun href id hnamed =>
      h id (mem_referencedIds_iff.mpr ⟨name, value, hfield, href, hnamed⟩)
  constructor
  · rw [withoutLinks, withoutLinks, Dict.filter_congr fun name value hfield => ?_]
    rw [hlinks name value hfield]
  · exact Dict.filter_congr hlinks

/-- A link record carries the references to the entities and nothing else. -/
theorem links?_eq_some_iff {r link : Record} {ids : List String} :
    r.links? ids = some link ↔
      (r.linked ids).isEmpty = false ∧ link = { r.splitOff with fields := r.linked ids } := by
  unfold links? linked
  cases hempty : (r.fields.filter (linksTo ids)).isEmpty <;> simp [hempty, eq_comm]

/-- A link record concerns the same entity. -/
theorem targetId_of_links? {r link : Record} {ids : List String} (h : r.links? ids = some link) :
    link.targetId = r.targetId := by
  obtain ⟨_, rfl⟩ := links?_eq_some_iff.mp h
  rfl

/-- Without a link record there are no references to the entities. -/
theorem links?_eq_none_iff {r : Record} {ids : List String} :
    r.links? ids = none ↔ r.linked ids = .empty := by
  have hempty : (r.linked ids).isEmpty = true ↔ r.linked ids = .empty :=
    ⟨fun h => Dict.ext_get? fun key => by rw [Dict.isEmpty_iff.mp h, Dict.get?_empty],
      fun h => by rw [h]; rfl⟩
  rw [← hempty]
  unfold links? linked
  cases hfields : (r.fields.filter (linksTo ids)).isEmpty <;> simp [hfields]

/-- Every field of a link record is a reference to one of the entities. -/
theorem linksTo_of_links? {r link : Record} {ids : List String} (h : r.links? ids = some link)
    {name : String} {value : Json} (hfield : link.fields.get? name = some value) :
    r.fields.get? name = some value ∧ linksTo ids name value = true := by
  obtain ⟨_, rfl⟩ := links?_eq_some_iff.mp h
  simpa [linked, Dict.get?_filter, Option.filter_eq_some_iff] using hfield

/-- Links to none of the ids leave nothing to take away. -/
@[simp]
theorem withoutLinks_nil (r : Record) : r.withoutLinks [] = r := by
  have hfields : (r.fields.filter fun name value => !linksTo [] name value) = r.fields :=
    Dict.filter_eq_self fun name value _ => by rw [linksTo_nil]; rfl
  rw [withoutLinks, hfields]

/-- Links to none of the ids make no record of their own. -/
@[simp]
theorem links?_nil (r : Record) : r.links? [] = none := by
  rw [links?_eq_none_iff]
  apply Dict.ext_get?
  intro name
  rw [linked, Dict.get?_filter, Dict.get?_empty]
  cases r.fields.get? name with
  | none => rfl
  | some value => simp [linksTo_nil]

/-- Putting the references back gives the fields of the record. -/
theorem withoutLinks_overlay_linked (r : Record) (ids : List String) :
    (r.withoutLinks ids).fields.overlay (r.linked ids) = r.fields :=
  Dict.filter_not_overlay_filter r.fields (linksTo ids)

/-- No field is on both sides. -/
theorem withoutLinks_linked_disjoint (r : Record) (ids : List String) (name : String) :
    (r.withoutLinks ids).fields.get? name = none ∨ (r.linked ids).get? name = none := by
  simp only [withoutLinks, linked, Dict.get?_filter]
  cases r.fields.get? name with
  | none => exact .inl rfl
  | some value => cases h : linksTo ids name value <;> simp [h]

end CloudCollector.Record
