import CloudCollector.Proofs.Dict
import CloudCollector.Proofs.Text.Bytes
import CloudCollector.Registry.Basic
import Mathlib.Data.List.Dedup

/-!
# What a registry knows after a push

A push lists the datasources of its target in an order, and may list a resource several times. The
first datasource of a resource decides which component models it and of which kind that is, and
every further one adds its datapoints behind those that are there. So each lookup after a push can
be read off the list of the push, whatever the registry knew before, and no lookup of another
target sees the push.
-/

namespace CloudCollector

namespace Namespace

/-! ## The datapoints of a resource -/

/-- The datapoints of a datasource come behind those that its meters already feed. -/
theorem getD_addMeters (known : Dict (List Datapoint)) (ds : Datasource) (meter : String) :
    (addMeters known ds).getD meter [] = known.getD meter [] ++ ds.meters.getD meter [] := by
  have hlookup : ds.meters.getD meter [] = (Dict.findEntry meter ds.meters.entries).getD [] := rfl
  have hincreasing := ds.meters.increasing
  rw [hlookup, addMeters]
  generalize ds.meters.entries = entries at hincreasing ⊢
  induction entries generalizing known with
  | nil => exact (List.append_nil _).symm
  | cons first rest ih =>
    have hrest := List.pairwise_cons.mp hincreasing
    rw [List.foldl_cons, ih _ hrest.2, Dict.getD_update, Dict.findEntry]
    by_cases hmeter : meter = first.1
    · -- a dictionary lists no meter twice
      have habsent : Dict.findEntry meter rest = none := Dict.findEntry_eq_none (hmeter ▸ hrest.1)
      rw [if_pos hmeter, if_pos hmeter, habsent, ← hmeter]
      exact List.append_nil _
    · rw [if_neg hmeter, if_neg hmeter]

/-- The datapoints of several datasources stand in the order of the list. -/
theorem getD_foldl_addMeters (known : Dict (List Datapoint)) (listed : List Datasource)
    (meter : String) :
    (listed.foldl addMeters known).getD meter [] =
      known.getD meter [] ++ listed.flatMap fun ds => ds.meters.getD meter [] := by
  induction listed generalizing known with
  | nil => exact (List.append_nil _).symm
  | cons ds rest ih =>
    rw [List.foldl_cons, ih, getD_addMeters, List.append_assoc, List.flatMap_cons]

/-! ## The datasources of a resource -/

/-- What a datasource makes of what is known about its resource. -/
def extend (known : Option Resource) (ds : Datasource) : Resource :=
  let known := known.getD ⟨ds.component, ds.componentKind, .empty⟩
  { known with meters := addMeters known.meters ds }

/-- A datasource changes what is known about its own resource only. -/
theorem get?_addDatasource (resources : Dict Resource) (ds : Datasource) (id : String) :
    (addDatasource resources ds).get? id =
      if ds.resourceId = id then some (extend (resources.get? id) ds) else resources.get? id := by
  rw [addDatasource, Dict.get?_insert]
  by_cases hid : ds.resourceId = id
  · subst hid
    rw [if_pos rfl, if_pos rfl, extend]
  · rw [if_neg (Ne.symm hid), if_neg hid]

/-- What is known about a resource follows from its own datasources. -/
theorem get?_foldl_addDatasource (resources : Dict Resource) (datasources : List Datasource)
    (id : String) :
    (datasources.foldl addDatasource resources).get? id =
      (datasources.filter (·.resourceId = id)).foldl (fun known ds => some (extend known ds))
        (resources.get? id) := by
  induction datasources generalizing resources with
  | nil => rfl
  | cons ds rest ih =>
    rw [List.foldl_cons, ih, get?_addDatasource]
    by_cases hid : ds.resourceId = id
    · rw [if_pos hid, List.filter_cons_of_pos (by simpa using hid), List.foldl_cons]
    · rw [if_neg hid, List.filter_cons_of_neg (by simpa using hid)]

/-- Further datasources of a resource only add to its meters. -/
theorem foldl_extend_some (known : Resource) (listed : List Datasource) :
    listed.foldl (fun known ds => some (extend known ds)) (some known) =
      some { known with meters := listed.foldl addMeters known.meters } := by
  induction listed generalizing known with
  | nil => rfl
  | cons ds rest ih => exact ih (extend (some known) ds)

/-- A push tells of a resource what its datasources say: the first one its component and its kind,
and all of them its meters. -/
theorem get?_resources_ofConfig (config : TargetConfig) (id : String) :
    (ofConfig config).resources.get? id =
      (config.datasources.find? (·.resourceId = id)).map fun first =>
        { component := first.component
          kind := first.componentKind
          meters := (config.datasources.filter (·.resourceId = id)).foldl addMeters .empty } := by
  rw [ofConfig, get?_foldl_addDatasource, Dict.get?_empty, ← List.head?_filter]
  cases config.datasources.filter (·.resourceId = id) with
  | nil => rfl
  | cons first rest => exact foldl_extend_some (extend none first) rest

/-- A push tells of the resources that its datasources list. -/
theorem contains_resources_ofConfig {config : TargetConfig} {id : String} :
    (ofConfig config).resources.contains id = true ↔
      ∃ ds ∈ config.datasources, ds.resourceId = id := by
  rw [Dict.contains_eq_isSome, get?_resources_ofConfig, Option.isSome_map, List.find?_isSome]
  simp

/-- A push tells of as many resources as its datasources have ids. -/
theorem size_resources_ofConfig (config : TargetConfig) :
    (ofConfig config).resources.size = (config.datasources.map (·.resourceId)).dedup.length := by
  rw [← Dict.length_keys]
  refine List.Perm.length_eq ?_
  rw [List.perm_ext_iff_of_nodup (Dict.nodup_keys _) (List.nodup_dedup _)]
  intro id
  rw [← Dict.contains_iff, contains_resources_ofConfig, List.mem_dedup, List.mem_map]

end Namespace

namespace Registry

/-- The resources of a kind are those that the registry knows to be of this kind. -/
theorem mem_idsOfKind_iff {r : Registry} {target kind id : String} :
    id ∈ r.idsOfKind target kind ↔
      ∃ resource, r.resource? target id = some resource ∧ resource.kind = kind := by
  unfold idsOfKind resource?
  cases r.targets.get? target with
  | none => simp
  | some ns => simp [Dict.mem_keys_iff, Dict.get?_filter, Option.filter_eq_some_iff]

/-- The ids of a kind are listed in increasing order. -/
theorem pairwise_idsOfKind (r : Registry) (target kind : String) :
    (r.idsOfKind target kind).Pairwise (· < ·) := by
  unfold idsOfKind
  cases r.targets.get? target with
  | none => exact .nil
  | some ns => exact List.pairwise_map.mpr (Dict.increasing _)

/-! ## Lookups -/

/-- Two registries answer every lookup of a target alike. -/
structure SameLookups (target : String) (r s : Registry) : Prop where
  hasTarget : r.hasTarget target = s.hasTarget target
  resource? : ∀ id, r.resource? target id = s.resource? target id
  hasResource : ∀ id, r.hasResource target id = s.hasResource target id
  componentFor? : ∀ id, r.componentFor? target id = s.componentFor? target id
  datapointsFor : ∀ id meter, r.datapointsFor target id meter = s.datapointsFor target id meter
  idsOfKind : ∀ kind, r.idsOfKind target kind = s.idsOfKind target kind
  handlesEventType : ∀ type, r.handlesEventType target type = s.handlesEventType target type
  resourceCount : r.resourceCount target = s.resourceCount target

/-- The lookups of a target depend on its namespace alone. -/
theorem sameLookups_of_get?_eq {target : String} {r s : Registry}
    (h : r.targets.get? target = s.targets.get? target) : SameLookups target r s := by
  have hresource (id : String) : r.resource? target id = s.resource? target id := by
    rw [resource?, resource?, h]
  exact
    { hasTarget := congrArg Option.isSome h
      resource? := hresource
      hasResource := fun id => by rw [hasResource, hasResource, hresource]
      componentFor? := fun id => by rw [componentFor?, componentFor?, hresource]
      datapointsFor := fun id meter => by rw [datapointsFor, datapointsFor, hresource]
      idsOfKind := fun kind => by rw [idsOfKind, idsOfKind, h]
      handlesEventType := fun type => by rw [handlesEventType, handlesEventType, h]
      resourceCount := by rw [resourceCount, resourceCount, h] }

/-- A registry knows of a target what a push lists, and nothing else. -/
structure Knows (r : Registry) (target : String) (config : TargetConfig) : Prop where
  hasTarget : r.hasTarget target = true
  /-- Every datasource of a resource adds its datapoints, in the order of the list. -/
  datapointsFor : ∀ id meter, r.datapointsFor target id meter =
    (config.datasources.filter (·.resourceId = id)).flatMap fun ds => ds.meters.getD meter []
  /-- The first datasource of a resource decides which component models it. -/
  componentFor? : ∀ id, r.componentFor? target id =
    (config.datasources.find? (·.resourceId = id)).map (·.component)
  /-- The first datasource of a resource decides its kind. -/
  kind : ∀ id, (r.resource? target id).map (·.kind) =
    (config.datasources.find? (·.resourceId = id)).map (·.componentKind)
  hasResource : ∀ id,
    r.hasResource target id = true ↔ ∃ ds ∈ config.datasources, ds.resourceId = id
  /-- The resources of a kind stand in the order of their bytes. -/
  increasing : ∀ kind,
    (r.idsOfKind target kind).Pairwise fun a b => Text.bytes a < Text.bytes b
  mem_idsOfKind : ∀ kind id, id ∈ r.idsOfKind target kind ↔
    ∃ first, config.datasources.find? (·.resourceId = id) = some first ∧
      first.componentKind = kind
  /-- A resource that is listed several times counts once. -/
  resourceCount :
    r.resourceCount target = (config.datasources.map (·.resourceId)).dedup.length
  handlesEventType : ∀ type,
    r.handlesEventType target type = true ↔ type ∈ config.eventTypes

/-- A registry knows what a push lists if its namespace is what the push tells. -/
theorem knows_of_get?_eq {r : Registry} {target : String} {config : TargetConfig}
    (h : r.targets.get? target = some (.ofConfig config)) : r.Knows target config := by
  have hresource (id : String) := Namespace.get?_resources_ofConfig config id
  have hlookup (id : String) :
      r.resource? target id = (Namespace.ofConfig config).resources.get? id := by
    rw [resource?, h, Option.bind_some]
  exact
    { hasTarget := by rw [hasTarget, Dict.contains_eq_isSome, h, Option.isSome_some]
      datapointsFor := fun id meter => by
        have hmeters := Namespace.getD_foldl_addMeters .empty
          (config.datasources.filter (·.resourceId = id)) meter
        rw [datapointsFor, hlookup, hresource, ← List.head?_filter]
        cases hlisted : config.datasources.filter (·.resourceId = id) with
        | nil => rfl
        | cons first rest => rwa [hlisted] at hmeters
      componentFor? := fun id => by rw [componentFor?, hlookup, hresource, Option.map_map]; rfl
      kind := fun id => by rw [hlookup, hresource, Option.map_map]; rfl
      hasResource := fun id => by
        rw [hasResource, hlookup, ← Dict.contains_eq_isSome, Namespace.contains_resources_ofConfig]
      increasing := fun kind => (r.pairwise_idsOfKind target kind).imp Text.bytes_lt_of_lt
      mem_idsOfKind := fun kind id => by
        rw [mem_idsOfKind_iff, hlookup, hresource]
        simp only [Option.map_eq_some_iff]
        constructor
        · rintro ⟨resource, ⟨first, hfirst, rfl⟩, hkind⟩
          exact ⟨first, hfirst, hkind⟩
        · rintro ⟨first, hfirst, hkind⟩
          exact ⟨_, ⟨first, hfirst, rfl⟩, hkind⟩
      resourceCount := by rw [resourceCount, h]; exact Namespace.size_resources_ofConfig config
      handlesEventType := fun type => by
        rw [handlesEventType, h, Option.any_some, List.contains_iff_mem]
        rfl }

/-- A push replaces what is known about its target, and about no other one. -/
theorem get?_targets_setConfig (r : Registry) (target other : String) (config : TargetConfig) :
    (r.setConfig target config).targets.get? other =
      if other = target then some (.ofConfig config) else r.targets.get? other :=
  Dict.get?_insert ..

/-- **A push defines its namespace completely.** After a push the registry knows of the target what
the push lists: of a resource that is listed several times the component and the kind of the first
datasource and the datapoints of all, one after the other. What was known before leaves no trace,
and no lookup of another target changes. -/
theorem push_defines_namespace (r : Registry) (target : String) (config : TargetConfig) :
    (r.setConfig target config).Knows target config ∧
    (∀ prior : Registry,
      SameLookups target (r.setConfig target config) (prior.setConfig target config)) ∧
    ∀ other, other ≠ target → SameLookups other (r.setConfig target config) r := by
  have hself (r : Registry) := (r.get?_targets_setConfig target target config).trans (if_pos rfl)
  refine ⟨knows_of_get?_eq (hself r), fun prior => ?_, fun other hother => ?_⟩
  · exact sameLookups_of_get?_eq ((hself r).trans (hself prior).symm)
  · exact sameLookups_of_get?_eq ((r.get?_targets_setConfig target other config).trans
      (if_neg hother))

/-- A datapoint of the given name. -/
def gauge (name : String) : Datapoint :=
  { id := name, name, path := name }

/-- A machine is listed twice, the second time for another component and of another kind, and a host
in between. -/
def machineListedTwice : TargetConfig :=
  { datasources :=
      [{ resourceId := "vm", component := "server-vm", componentKind := "Instance"
         meters := .ofList [("cpu", [gauge "load"])] },
        { resourceId := "host", component := "host", componentKind := "Host" },
        { resourceId := "vm", component := "spare", componentKind := "Host"
          meters := .ofList [("cpu", [gauge "heat", gauge "load"]), ("memory", [gauge "used"])] }]
    eventTypes := ["update"] }

/-- The machine keeps its first component and its first kind and feeds all its datapoints, the disk
of an earlier push is gone, and the laboratory still has its lamp. -/
theorem machine_defined_by_push :
    let before := ((({} : Registry).setConfig "site"
      { datasources := [{ resourceId := "disk", component := "disk" }] }).setConfig "lab"
      { datasources := [{ resourceId := "lamp", component := "lamp" }] })
    let after := before.setConfig "site" machineListedTwice
    after.datapointsFor "site" "vm" "cpu" = [gauge "load", gauge "heat", gauge "load"] ∧
      after.componentFor? "site" "vm" = some "server-vm" ∧
      "vm" ∉ after.idsOfKind "site" "Host" ∧ after.resourceCount "site" = 2 ∧
      after.hasResource "site" "disk" = false ∧ after.hasResource "lab" "lamp" = true := by
  intro before after
  obtain ⟨hknows, -, hothers⟩ := push_defines_namespace before "site" machineListedTwice
  refine ⟨?_, ?_, ?_, ?_, ?_, ?_⟩
  · exact (hknows.datapointsFor "vm" "cpu").trans (by decide)
  · exact (hknows.componentFor? "vm").trans (by decide)
  · rw [hknows.mem_idsOfKind]
    decide
  · exact hknows.resourceCount.trans (by decide)
  · rw [← Bool.not_eq_true, hknows.hasResource]
    decide
  · exact ((hothers "lab" (by decide)).hasResource "lamp").trans (by decide)

end Registry

end CloudCollector
