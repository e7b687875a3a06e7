import CloudCollector.Delivery.Basic

/-!
# Rehearsed deliveries

A rehearsal stands in for the collaborators. It follows a script for each kind of delivery, which
says what fails and how long the rest takes, and records what it accepts until someone asks for a
report.
-/

namespace CloudCollector

/-- What a rehearsal does with one kind of delivery. -/
structure Script where
  /-- From how many recorded deliveries on the next one fails. -/
  after : Option Nat := none
  /-- Without `after`, the targets whose batches fail. -/
  targets : List String := []
  /-- The causes of a failure. Without them, a delivery that fails is never answered. -/
  fail : Option (List String) := none
  /-- How many milliseconds an accepted delivery takes. -/
  delay : Nat := 0
  deriving DecidableEq

/-- What a collaborator does with a delivery. -/
inductive Response where
  /-- Accepts it after some milliseconds. -/
  | accept (delay : Nat)
  /-- Refuses it at once. -/
  | refuse (causes : List String)
  /-- Never answers. -/
  | hang
  deriving DecidableEq

namespace Response

/-- The milliseconds that a call lasts. A collaborator that answers just when the limit is
reached is in time. -/
def duration (limit : Span) : Response → Nat
  | accept delay => min delay limit.ceilMillis
  | refuse _ => 0
  | hang => limit.ceilMillis

/-- What becomes of a delivery. -/
def outcome (limit : Span) : Response → Outcome
  | accept delay => if delay ≤ limit.ceilMillis then .ok () else .error (.timedOut limit)
  | refuse causes => .error (.refused causes)
  | hang => .error (.timedOut limit)

end Response

/-- A delivery that was accepted, and when in milliseconds. -/
structure Recorded where
  time : Nat
  delivery : Delivery
  deriving DecidableEq

/-- Stands in for the collaborators. -/
structure Rehearsal where
  metric : Script := {}
  event : Script := {}
  model : Script := {}
  /-- What was accepted since the last report, in its order. -/
  recorded : List Recorded := []
  deriving DecidableEq

namespace Rehearsal

/-- The script for a delivery. -/
def scriptFor (r : Rehearsal) : Delivery → Script
  | .metric _ => r.metric
  | .event _ => r.event
  | .model _ => r.model

/-- Whether two deliveries are of one kind. -/
def sameKind : Delivery → Delivery → Bool
  | .metric _, .metric _ | .event _, .event _ | .model _, .model _ => true
  | _, _ => false

/-- Whether a delivery fails. -/
def fails (r : Rehearsal) (d : Delivery) : Bool :=
  let script := r.scriptFor d
  match script.after with
  | some n => n ≤ r.recorded.countP fun recorded => sameKind recorded.delivery d
  | none => d.target?.any script.targets.contains

/-- What the rehearsal does with a delivery. -/
def respond (r : Rehearsal) (d : Delivery) : Response :=
  let script := r.scriptFor d
  if r.fails d then
    match script.fail with
    | some causes => .refuse causes
    | none => .hang
  else .accept script.delay

/-- Records an accepted delivery. -/
def record (r : Rehearsal) (time : Nat) (d : Delivery) : Rehearsal :=
  { r with recorded := r.recorded ++ [⟨time, d⟩] }

/-- Records a delivery whose outcome is known. -/
def note (r : Rehearsal) (time : Nat) (d : Delivery) : Outcome → Rehearsal
  | .ok () => r.record time d
  | .error _ => r

/-- Answers a delivery where no clock runs. -/
def answer (limit : Span) (r : Rehearsal) (d : Delivery) : Rehearsal × Outcome :=
  let outcome := (r.respond d).outcome limit
  (r.note 0 d outcome, outcome)

/-- Reports what was accepted, and forgets it. -/
def report (r : Rehearsal) : Rehearsal × List Recorded :=
  ({ r with recorded := [] }, r.recorded)

/-- Replaces the scripts. -/
def rescript (r scripts : Rehearsal) : Rehearsal :=
  { scripts with recorded := r.recorded }

end Rehearsal

end CloudCollector
