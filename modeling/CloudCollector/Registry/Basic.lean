import CloudCollector.Registry.Config

/-!
# The registry

The registry knows which resources of a target system are modeled and which datapoints their
meters feed. A push replaces everything that is known about its target. Looking for something
that is not there finds nothing and is no fault.
-/

namespace CloudCollector

/-- What is known about a resource. -/
structure Resource where
  /-- The component that models it. -/
  component : String
  /-- The kind of the component. -/
  kind : String
  /-- The datapoints that each meter feeds. -/
  meters : Dict (List Datapoint)
  deriving DecidableEq

/-- What is known about a target system. -/
structure Namespace where
  resources : Dict Resource := .empty
  /-- The types of the events that may change the model. -/
  eventTypes : List String := []
  deriving DecidableEq, Inhabited

namespace Namespace

/-- Adds the datapoints of a datasource to those that each meter already feeds. -/
def addMeters (known : Dict (List Datapoint)) (ds : Datasource) : Dict (List Datapoint) :=
  ds.meters.entries.foldl (fun meters entry => meters.update entry.1 [] (· ++ entry.2)) known

/-- Adds a datasource. A resource that is listed again keeps its component and its kind. -/
def addDatasource (resources : Dict Resource) (ds : Datasource) : Dict Resource :=
  let known := (resources.get? ds.resourceId).getD ⟨ds.component, ds.componentKind, .empty⟩
  resources.insert ds.resourceId { known with meters := addMeters known.meters ds }

/-- What a push tells about its target. -/
def ofConfig (config : TargetConfig) : Namespace :=
  { resources := config.datasources.foldl addDatasource .empty
    eventTypes := config.eventTypes }

end Namespace

/-- What is known about every target system. -/
structure Registry where
  targets : Dict Namespace := .empty
  deriving DecidableEq, Inhabited

namespace Registry

/-- Replaces what is known about a target by what a push tells. -/
def setConfig (r : Registry) (target : String) (config : TargetConfig) : Registry :=
  { r with targets := r.targets.insert target (.ofConfig config) }

/-- Forgets a target. -/
def remove (r : Registry) (target : String) : Registry :=
  { r with targets := r.targets.erase target }

/-- Whether a target was configured. -/
def hasTarget (r : Registry) (target : String) : Bool :=
  r.targets.contains target

/-- What is known about a resource of a target. -/
def resource? (r : Registry) (target id : String) : Option Resource :=
  (r.targets.get? target).bind fun ns => ns.resources.get? id

/-- Whether a resource of a target is known. -/
def hasResource (r : Registry) (target id : String) : Bool :=
  (r.resource? target id).isSome

/-- The component that models a resource. -/
def componentFor? (r : Registry) (target id : String) : Option String :=
  (r.resource? target id).map (·.component)

/-- The datapoints that a meter of a resource feeds. -/
def datapointsFor (r : Registry) (target id meter : String) : List Datapoint :=
  ((r.resource? target id).bind fun resource => resource.meters.get? meter).getD []

/-- The ids of the resources of a kind, in increasing order. -/
def idsOfKind (r : Registry) (target kind : String) : List String :=
  match r.targets.get? target with
  | some ns => (ns.resources.filter fun _ resource => resource.kind == kind).keys
  | none => []

/-- Whether events of a type may change the model. -/
def handlesEventType (r : Registry) (target eventType : String) : Bool :=
  (r.targets.get? target).any fun ns => ns.eventTypes.contains eventType

/-- The number of known resources of a target. -/
def resourceCount (r : Registry) (target : String) : Nat :=
  match r.targets.get? target with
  | some ns => ns.resources.size
  | none => 0

end Registry

end CloudCollector
