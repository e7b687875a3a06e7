import CloudCollector.Model.Record
import CloudCollector.Text.Blank

/-!
# Rules of discovery

Some resources show up in telemetry before anyone models them: the id of a child contains the id
of its parent between dashes, followed by a suffix of its own. A rule says which meters reveal
such children, which resources may be their parents, and what the record of a child looks like.
-/

namespace CloudCollector

/-- How a child is tied to its parent. -/
structure Rule where
  /-- What the name of a revealing meter begins with. -/
  meterPrefix : String
  /-- The kind of the parents. -/
  parentKind : String
  /-- The family of classes of the children. -/
  childModule : String
  /-- The relationship of a parent that its children live in. -/
  childRelationship : String
  /-- What the id of a child begins with. -/
  childIdPrefix : String
  deriving DecidableEq

namespace Rule

/-- Network interfaces of virtual machines show up in the meters of network traffic. -/
def networkInterfaces : Rule :=
  { meterPrefix := "network."
    parentKind := "Instance"
    childModule := "Vnic"
    childRelationship := "vnics"
    childIdPrefix := "vnic" }

/-- Whether a meter reveals children. -/
def matchesMeter (rule : Rule) (meter : String) : Bool :=
  (Text.dropFront? rule.meterPrefix.toList meter.toList).isSome

/-- What follows the first occurrence of `needle`. -/
def after? (needle : List Char) : List Char → Option (List Char)
  | [] => Text.dropFront? needle []
  | c :: cs =>
    match Text.dropFront? needle (c :: cs) with
    | some rest => some rest
    | none => after? needle cs

/-- The suffix of a candidate whose id contains the id of the parent between dashes: what follows
its first occurrence, unless nothing does. -/
def suffix? (candidate parent : String) : Option String :=
  if parent = "" then none
  else
    match after? ('-' :: (parent.toList ++ ['-'])) candidate.toList with
    | some [] | none => none
    | some rest => some (String.ofList rest)

/-- The record that creates a child. -/
def childRecord (rule : Rule) (candidate parent component suffix : String) : Record :=
  let record : Record :=
    { targetId := rule.childIdPrefix ++ "-" ++ parent ++ "-" ++ suffix
      lifecycle := .create
      place :=
        { module := rule.childModule
          container := "components/" ++ component
          relationship := rule.childRelationship } }
  (record.setField "title" (.string suffix)).setField "resourceId" (.string candidate)

end Rule

end CloudCollector
