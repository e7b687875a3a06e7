import CloudCollector.Config.Check
import CloudCollector.Proofs.Decode.Struct

/-!
# What the check of a configuration accepts

A configuration is checked section by section, and the first fault ends the check. It is accepted
exactly when no section has a fault.
-/

namespace CloudCollector

/-! ## Checks one after the other -/

section Checks

variable {ε α : Type}

/-- A check with another one behind succeeds if both do. -/
theorem bind_unit_eq_ok_iff {check : Except ε Unit} {next : Unit → Except ε α} {a : α} :
    check >>= next = .ok a ↔ check = .ok () ∧ next () = .ok a := by
  rw [bind_eq_ok_iff]
  exact ⟨fun ⟨_, hcheck, hnext⟩ => ⟨hcheck, hnext⟩, fun ⟨hcheck, hnext⟩ => ⟨(), hcheck, hnext⟩⟩

/-- Checks in a row pass if each of them does. -/
theorem forM_eq_ok_iff {check : α → Except ε Unit} {items : List α} :
    items.forM check = .ok () ↔ ∀ a ∈ items, check a = .ok () := by
  induction items with
  | nil => simp [List.forM, pure_eq_ok_iff]
  | cons first rest ih =>
    rw [List.forM, bind_unit_eq_ok_iff, ih, List.forall_mem_cons]

/-- A check that is made under a condition only. -/
theorem ite_check_eq_ok_iff {P : Prop} [Decidable P] {check : Except ε Unit} {next : Except ε α}
    {a : α} :
    (if P then check >>= fun _ => next else next) = .ok a ↔
      (P → check = .ok ()) ∧ next = .ok a := by
  split
  · next h => rw [bind_unit_eq_ok_iff, forall_prop_of_true h]
  · next h => exact ⟨fun hnext => ⟨fun h' => absurd h' h, hnext⟩, And.right⟩

end Checks

namespace Config

/-- A condition is passed if it holds. -/
theorem ensure_eq_ok_iff {holds : Bool} {fault : ConfigFault} :
    ensure holds fault = .ok () ↔ holds = true := by
  cases holds <;> simp [ensure]

/-- A tuning is accepted at any place if its windows are. -/
theorem checkTuning_eq_ok_iff {place : String} {tuning : Tuning} :
    checkTuning place tuning = .ok () ↔ tuning.validate = .ok () :=
  mapError_eq_ok_iff

/-- A rule is accepted if it names a meter, a kind of parents and a beginning of ids. -/
theorem checkRule_eq_ok_iff {rule : Rule} {index : Nat} :
    checkRule rule index = .ok () ↔
      rule.meterPrefix ≠ "" ∧ rule.parentKind ≠ "" ∧ rule.childIdPrefix ≠ "" := by
  simp [checkRule, bind_unit_eq_ok_iff, ensure_eq_ok_iff]

/-- The settings of a sink are accepted if they name all addresses, a time limit and a known
compression. -/
theorem checkHttp_eq_ok_iff {sink : HttpSink} :
    checkHttp sink = .ok () ↔
      sink.metricsUrl ≠ "" ∧ sink.eventsUrl ≠ "" ∧ sink.modelUrl ≠ "" ∧
        sink.requestTimeout.isZero = false ∧ sink.compression ∈ compressionNames := by
  simp [checkHttp, bind_unit_eq_ok_iff, ensure_eq_ok_iff]

/-- The check lists just those names of compressions that a sink understands. -/
theorem mem_compressionNames_iff {name : String} :
    name ∈ compressionNames ↔ (Compression.ofName? name).isSome = true := by
  unfold compressionNames Compression.ofName?
  split <;> simp_all

/-- A target is accepted if it has a name, a tuning that holds and names for its resources. -/
theorem checkTarget_eq_ok_iff {target : String} {config : TargetConfig} :
    checkTarget target config = .ok () ↔
      target ≠ "" ∧ config.queue.validate = .ok () ∧
        ∀ ds ∈ config.datasources, ds.resourceId ≠ "" := by
  simp [checkTarget, bind_unit_eq_ok_iff, ensure_eq_ok_iff, checkTuning_eq_ok_iff]

/-- All rules are accepted exactly when each of them is fit, wherever it stands. -/
theorem checkRules_iff {rules : List Rule} :
    (∀ item ∈ rules.zipIdx, checkRule item.1 item.2 = .ok ()) ↔
      ∀ rule ∈ rules, rule.meterPrefix ≠ "" ∧ rule.parentKind ≠ "" ∧ rule.childIdPrefix ≠ "" := by
  constructor
  · intro h rule hrule
    rw [← List.zipIdx_map_fst 0 rules] at hrule
    obtain ⟨item, hitem, rfl⟩ := List.mem_map.mp hrule
    exact checkRule_eq_ok_iff.mp (h item hitem)
  · intro h item hitem
    exact checkRule_eq_ok_iff.mpr (h item.1 (List.fst_mem_of_mem_zipIdx hitem))

/-- All targets are accepted exactly when each that is listed is fit. -/
theorem checkTargets_iff {targets : Dict TargetConfig} :
    (∀ entry ∈ targets.entries, checkTarget entry.1 entry.2 = .ok ()) ↔
      ∀ target config, targets.get? target = some config →
        target ≠ "" ∧ config.queue.validate = .ok () ∧
          ∀ ds ∈ config.datasources, ds.resourceId ≠ "" := by
  simp only [checkTarget_eq_ok_iff, Prod.forall, Dict.mem_entries_iff]

/-- Nothing in a configuration keeps a collector from running. -/
structure Sound (c : Config) : Prop where
  address : c.address ≠ ""
  intervals : ∀ task, (c.intervals.get task).isZero = false
  queue : c.queue.validate = .ok ()
  horizon : c.horizon.isZero = false
  rules : ∀ rule ∈ c.rules,
    rule.meterPrefix ≠ "" ∧ rule.parentKind ≠ "" ∧ rule.childIdPrefix ≠ ""
  callTimeout : c.callTimeout.isZero = false
  /-- Delivery over HTTP is set up if it is asked for. -/
  http : c.mode = .http →
    c.http.metricsUrl ≠ "" ∧ c.http.eventsUrl ≠ "" ∧ c.http.modelUrl ≠ "" ∧
      c.http.requestTimeout.isZero = false ∧ c.http.compression ∈ compressionNames
  targets : ∀ target config, c.targets.get? target = some config →
    target ≠ "" ∧ config.queue.validate = .ok () ∧
      ∀ ds ∈ config.datasources, ds.resourceId ≠ ""

/-- A configuration is accepted exactly when it has no fault. -/
theorem validate_eq_ok_iff {c : Config} : c.validate = .ok () ↔ c.Sound := by
  simp only [validate, bind_unit_eq_ok_iff, ite_check_eq_ok_iff, forM_eq_ok_iff, ensure_eq_ok_iff,
    checkTuning_eq_ok_iff, checkHttp_eq_ok_iff, checkRules_iff, checkTargets_iff, bne_iff_ne,
    Bool.not_eq_true', Task.mem_all, true_imp_iff]
  constructor
  · rintro ⟨haddress, hintervals, hqueue, hhorizon, hrules, hcall, hhttp, htargets⟩
    exact ⟨haddress, hintervals, hqueue, hhorizon, hrules, hcall, hhttp, htargets⟩
  · intro h
    exact ⟨h.address, h.intervals, h.queue, h.horizon, h.rules, h.callTimeout, h.http, h.targets⟩

end Config

end CloudCollector
