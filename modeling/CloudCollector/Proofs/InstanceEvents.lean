import CloudCollector.InstanceEvents
import CloudCollector.Proofs.Dict
import Mathlib.Data.List.Basic

/-!
# What an event of a machine leads to

An event that is known and names its machine is tied to the component of the machine, and its
action tells whether the model changes and how. The fields of the record are those that the traits
of the event fill: no field belongs to two traits, so each field has the value of its own trait.
-/

namespace CloudCollector

/-- A value is a string, a number or a switch: it is neither null nor made of parts. -/
def Json.IsScalar (value : Json) : Prop :=
  value ≠ .null ∧ (∀ items, value ≠ .array items) ∧ ∀ members, value ≠ .object members

/-- The traits with a text are those with a scalar value. -/
theorem Event.exists_traitText_iff {e : Event} {name : String} :
    (∃ text, e.traitText name = some text) ↔
      ∃ value, e.traits.get? name = some value ∧ value.IsScalar := by
  rw [← Option.isSome_iff_exists, traitText]
  cases e.traits.get? name with
  | none => simp
  | some value => cases value <;> simp [scalarText?, Json.IsScalar]

/-- Only a summary that is missing is filled in. -/
theorem Event.withSummary_eq (e : Event) (summary : String) :
    e.withSummary summary = { e with summary := if e.summary = "" then summary else e.summary } := by
  unfold withSummary
  split <;> rfl

/-- Filling in a summary leaves none missing, and keeps one that was told before. -/
theorem Event.exists_withSummary_eq {e : Event} {told summary : String}
    (htold : told ≠ "" → e.summary = told) (hsummary : summary ≠ "") :
    ∃ final, e.withSummary summary = { e with summary := final } ∧
      (told ≠ "" → final = told) ∧ final ≠ "" := by
  refine ⟨_, e.withSummary_eq summary, fun h => ?_, ?_⟩
  · rw [htold h, if_neg h]
  · split
    · exact hsummary
    · assumption

namespace InstanceEvents

/-! ## Fields -/

/-- What a trait tells. A null trait tells nothing. -/
def told? (traits : Dict Json) (trait : String) : Option Json :=
  (traits.get? trait).filter (· ≠ .null)

/-- A trait tells what it holds, unless this is null. -/
theorem told?_eq_some_iff {traits : Dict Json} {trait : String} {value : Json} :
    told? traits trait = some value ↔ traits.get? trait = some value ∧ value ≠ .null := by
  rw [told?, Option.filter_eq_some_iff, decide_eq_true_iff]

/-- Fills the fields of one trait. -/
def fill (traits fields : Dict Json) (entry : String × List String) : Dict Json :=
  ((told? traits entry.1).map (fields.insertAll entry.2)).getD fields

/-- The fields are filled trait by trait. -/
theorem fields_eq_foldl (traits : Dict Json) :
    fields traits = traitFields.foldl (fill traits) .empty := by
  unfold fields
  congr 1
  funext fields entry
  rw [fill, told?]
  cases traits.get? entry.1 with
  | none => rfl
  | some value => cases value <;> rfl

/-- Fields that have no value yet get the one that the trait tells. -/
theorem get?_fill_iff {traits fields : Dict Json} {entry : String × List String} {name : String}
    {value : Json} (hnew : name ∈ entry.2 → fields.get? name = none) :
    (fill traits fields entry).get? name = some value ↔
      fields.get? name = some value ∨ name ∈ entry.2 ∧ told? traits entry.1 = some value := by
  cases htold : told? traits entry.1 with
  | none => simp [fill, htold]
  | some told =>
    rw [fill, htold, Option.map_some, Option.getD_some, Dict.get?_insertAll]
    by_cases hname : name ∈ entry.2
    · simp [hname, hnew hname]
    · simp [hname]

/-- Trait by trait, every field gets the value of its trait, if no field belongs to two traits. -/
theorem get?_foldl_fill_iff {traits : Dict Json} {table : List (String × List String)}
    (hnodup : (table.flatMap (·.2)).Nodup) {fields : Dict Json}
    (hnew : ∀ name ∈ table.flatMap (·.2), fields.get? name = none) {name : String} {value : Json} :
    (table.foldl (fill traits) fields).get? name = some value ↔
      fields.get? name = some value ∨
        ∃ entry ∈ table, name ∈ entry.2 ∧ told? traits entry.1 = some value := by
  induction table generalizing fields with
  | nil => simp
  | cons first rest ih =>
    rw [List.flatMap_cons, List.nodup_append] at hnodup
    obtain ⟨-, hrest, hdisjoint⟩ := hnodup
    have hfirst : ∀ other ∈ first.2, fields.get? other = none := fun other hother =>
      hnew other (List.mem_append_left _ hother)
    have hlater : ∀ other ∈ rest.flatMap (·.2), (fill traits fields first).get? other = none := by
      intro other hother
      rw [Option.eq_none_iff_forall_ne_some]
      intro found hfound
      rcases (get?_fill_iff (hfirst other)).mp hfound with hfound | ⟨hmem, -⟩
      · rw [hnew other (List.mem_append_right _ hother)] at hfound
        cases hfound
      · exact hdisjoint other hmem other hother rfl
    rw [List.foldl_cons, ih hrest hlater, get?_fill_iff (hfirst name), List.exists_mem_cons_iff,
      or_assoc]

/-- The fields of a record are the images of the traits that tell something. -/
theorem get?_fields_iff {traits : Dict Json} {name : String} {value : Json} :
    (fields traits).get? name = some value ↔
      ∃ entry ∈ traitFields, name ∈ entry.2 ∧ traits.get? entry.1 = some value ∧
        value ≠ .null := by
  have hnodup : (traitFields.flatMap (·.2)).Nodup := by decide
  rw [fields_eq_foldl, get?_foldl_fill_iff hnodup fun _ _ => rfl]
  simp only [Dict.get?_empty, reduceCtorEq, false_or, told?_eq_some_iff]

/-! ## Actions -/

/-- What an action does to the model, if it does anything. -/
def Action.lifecycle? : Action → Option Lifecycle
  | .identify | .announce _ => none
  | .create _ => some .create
  | .update _ | .transition _ => some .update
  | .delete _ => some .delete

/-- The record of what an event does to the model. -/
def change (e : Event) (instanceId : String) (lifecycle : Lifecycle) : Record :=
  if lifecycle.deletes then deletion instanceId else record e instanceId lifecycle

/-- The record of an event is of the machine that the event names. -/
@[simp]
theorem targetId_change (e : Event) (instanceId : String) (lifecycle : Lifecycle) :
    (change e instanceId lifecycle).targetId = targetId instanceId := by
  unfold change
  split <;> rfl

/-- The record of an event has the lifecycle of its action. -/
theorem lifecycle_change {action : Action} {lifecycle : Lifecycle}
    (h : action.lifecycle? = some lifecycle) (e : Event) (instanceId : String) :
    (change e instanceId lifecycle).lifecycle = lifecycle := by
  cases action <;> cases h <;> rfl

/-- An event that is known and names its machine gets the component of the machine and may get a
summary, and its action tells what record it leads to. Any other event stays as it is. -/
theorem apply_cases (e : Event) :
    (∃ action instanceId summary, action? e.eventType = some action ∧
      e.traitText "instance_id" = some instanceId ∧ (e.summary ≠ "" → summary = e.summary) ∧
      apply e = ({ e with component := targetId instanceId, summary },
        action.lifecycle?.map (change e instanceId))) ∨
    (action? e.eventType = none ∨ e.traitText "instance_id" = none) ∧ apply e = (e, none) := by
  cases haction : action? e.eventType with
  | none => exact .inr ⟨.inl rfl, by rw [apply, haction]⟩
  | some action =>
    cases hid : e.traitText "instance_id" with
    | none => exact .inr ⟨.inr rfl, by rw [apply, haction, hid]⟩
    | some instanceId =>
      refine .inl ?_
      rw [apply, haction, hid]
      simp only [Event.withSummary_eq]
      -- an action that only names the component keeps the summary, any other fills it in
      cases action with
      | identify => exact ⟨_, _, _, rfl, rfl, fun _ => rfl, rfl⟩
      | announce verb => exact ⟨_, _, _, rfl, rfl, fun h => if_neg h, rfl⟩
      | create verb => exact ⟨_, _, _, rfl, rfl, fun h => if_neg h, rfl⟩
      | update verb => exact ⟨_, _, _, rfl, rfl, fun h => if_neg h, rfl⟩
      | transition verb => exact ⟨_, _, _, rfl, rfl, fun h => if_neg h, rfl⟩
      | delete verb => exact ⟨_, _, _, rfl, rfl, fun h => if_neg h, rfl⟩

/-- Every record that an event leads to names its entity. -/
theorem targetId_ne_of_apply {e : Event} {r : Record} (h : (apply e).2 = some r) :
    r.targetId ≠ "" := by
  rcases apply_cases e with ⟨action, instanceId, summary, -, -, -, heq⟩ | ⟨-, heq⟩
  · rw [heq] at h
    obtain ⟨lifecycle, -, rfl⟩ := Option.map_eq_some_iff.mp h
    rw [targetId_change]
    simp [targetId]
  · rw [heq] at h
    cases h

end InstanceEvents

end CloudCollector
