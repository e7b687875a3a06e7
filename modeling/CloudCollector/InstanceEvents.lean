import CloudCollector.Model.Event
import CloudCollector.Model.Record

/-!
# Events of virtual machines

The control plane reports each step in the life of a virtual machine. An event that names the
machine is tied to its component; many also get a summary, and some change the model. An event of
another type, or without the id of a machine, says nothing about the model.
-/

namespace CloudCollector.InstanceEvents

/-- What an event does. Each verb completes the summary of the event. -/
inductive Action where
  /-- Names the component only. -/
  | identify
  /-- Gets a summary, and leaves the model as it is. -/
  | announce (verb : String)
  /-- Creates the machine. -/
  | create (verb : String)
  /-- Updates the machine. -/
  | update (verb : String)
  /-- Updates the machine, and tells the change of its state in the summary. -/
  | transition (verb : String)
  /-- Deletes the machine. -/
  | delete (verb : String)
  deriving DecidableEq

/-- What each type of event does. -/
def actions : List (String × Action) :=
  [
    ("compute.instance.create.start", .create "created"),
    ("compute.instance.create.end", .update "updated"),
    ("compute.instance.create.error", .update "updated"),
    ("compute.instance.update", .transition "updated"),
    ("compute.instance.delete.start", .identify),
    ("compute.instance.delete.end", .delete "deleted"),
    ("compute.instance.create_ip.start", .identify),
    ("compute.instance.create_ip.end", .identify),
    ("compute.instance.delete_ip.start", .identify),
    ("compute.instance.delete_ip.end", .identify),
    ("compute.instance.exists", .identify),
    ("compute.instance.exists.verified.old", .identify),
    ("compute.instance.live_migration.pre.start", .identify),
    ("compute.instance.live_migration.pre.end", .identify),
    ("compute.instance.live_migration.post.dest.start", .identify),
    ("compute.instance.live_migration.post.dest.end", .identify),
    ("compute.instance.live_migration._post.start", .identify),
    ("compute.instance.live_migration._post.end", .update "updated"),
    ("compute.instance.power_off.start", .announce "powering off"),
    ("compute.instance.power_off.end", .transition "powered off"),
    ("compute.instance.power_on.start", .announce "powering on"),
    ("compute.instance.power_on.end", .transition "powered on"),
    ("compute.instance.reboot.start", .transition "rebooting"),
    ("compute.instance.reboot.end", .transition "rebooted"),
    ("compute.instance.shutdown.start", .transition "shutting down"),
    ("compute.instance.shutdown.end", .transition "shut down"),
    ("compute.instance.rebuild.start", .transition "rebuilding"),
    ("compute.instance.rebuild.end", .transition "rebuilt"),
    ("compute.instance.rescue.start", .identify),
    ("compute.instance.rescue.end", .update "placed in rescue mode"),
    ("compute.instance.unrescue.start", .identify),
    ("compute.instance.unrescue.end", .update "removed from rescue mode"),
    ("compute.instance.finish_resize.start", .identify),
    ("compute.instance.finish_resize.end", .update "updated"),
    ("compute.instance.resize.start", .identify),
    ("compute.instance.resize.confirm.start", .identify),
    ("compute.instance.resize.confirm.end", .identify),
    ("compute.instance.resize.prep.start", .identify),
    ("compute.instance.resize.prep.end", .identify),
    ("compute.instance.resize.revert.start", .identify),
    ("compute.instance.resize.revert.end", .update "updated"),
    ("compute.instance.resize.end", .update "updated"),
    ("compute.instance.snapshot.start", .identify),
    ("compute.instance.snapshot.end", .identify),
    ("compute.instance.suspend", .update "suspended"),
    ("compute.instance.resume", .update "resumed"),
    ("compute.instance.volume.attach", .identify),
    ("compute.instance.volume.detach", .identify)]

/-- The fields of a record that each trait fills. -/
def traitFields : List (String × List String) :=
  [("display_name", ["title", "hostName"]),
    ("instance_id", ["resourceId", "serverId"]),
    ("state", ["serverStatus"]),
    ("flavor_name", ["set_flavor_name"]),
    ("host_name", ["set_host_name"]),
    ("image_name", ["set_image_name"]),
    ("tenant_id", ["set_tenant"])]

/-- What an event of a type does, if the type is known. -/
def action? (eventType : String) : Option Action :=
  (actions.find? (·.1 == eventType)).map (·.2)

/-- Whether a type of event is known. -/
def knows (eventType : String) : Bool :=
  (action? eventType).isSome

/-- The id of the component of a machine. -/
def targetId (instanceId : String) : String :=
  "server-" ++ instanceId

/-- Where a machine stands in the model. -/
def place : Structure :=
  { module := "Instance", relationship := "components" }

/-- The fields that the traits of an event fill. A trait that is null fills none. -/
def fields (traits : Dict Json) : Dict Json :=
  traitFields.foldl (fun fields entry =>
    match traits.get? entry.1 with
    | none | some .null => fields
    | some value => fields.insertAll entry.2 value) .empty

/-- A record of the machine with the fields that the event fills. -/
def record (e : Event) (instanceId : String) (lifecycle : Lifecycle) : Record :=
  { targetId := targetId instanceId, lifecycle, place, fields := fields e.traits }

/-- The record that deletes the machine. -/
def deletion (instanceId : String) : Record :=
  { targetId := targetId instanceId, lifecycle := .delete, place }

/-- The change of state that an event tells, or nothing when it tells no new state. -/
def statusChange (e : Event) : String :=
  let description := match e.traitText "state_description" with
    | none | some "" => ""
    | some text => " [" ++ text ++ "]"
  match e.traitText "old_state", e.traitText "state" with
  | some old, some new => " (status changed from " ++ old ++ " to " ++ new ++ description ++ ")"
  | none, some new => " (status changed to " ++ new ++ description ++ ")"
  | _, none => ""

/-- The event with its component and its summary filled in, and the record of the change that it
makes, if it makes one. -/
def apply (e : Event) : Event × Option Record :=
  match action? e.eventType, e.traitText "instance_id" with
  | some action, some instanceId =>
    let e := { e with component := targetId instanceId }
    let name := (e.traitText "display_name").getD instanceId
    let summary (verb : String) := "Instance " ++ name ++ " " ++ verb
    match action with
    | .identify => (e, none)
    | .announce verb => (e.withSummary (summary verb), none)
    | .create verb => (e.withSummary (summary verb), some (record e instanceId .create))
    | .update verb => (e.withSummary (summary verb), some (record e instanceId .update))
    | .transition verb =>
      (e.withSummary (summary verb ++ statusChange e), some (record e instanceId .update))
    | .delete verb => (e.withSummary (summary verb), some (deletion instanceId))
  | _, _ => (e, none)

end CloudCollector.InstanceEvents
