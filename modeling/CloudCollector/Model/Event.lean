import CloudCollector.Json.Printer

/-!
# Events

The control plane reports what happens to its resources as events with named traits.
-/

namespace CloudCollector

/-- How severe an event is. -/
inductive Severity where
  | clear
  | debug
  | info
  | warning
  | error
  | critical
  deriving DecidableEq

namespace Severity

instance : Inhabited Severity := ⟨info⟩

/-- Every severity with its name, from the least severe to the most. -/
def names : List (String × Severity) :=
  [("clear", clear), ("debug", debug), ("info", info), ("warning", warning), ("error", error),
    ("critical", critical)]

/-- The name of a severity. -/
def name : Severity → String
  | clear => "clear"
  | debug => "debug"
  | info => "info"
  | warning => "warning"
  | error => "error"
  | critical => "critical"

/-- The place of a severity among all. -/
def rank : Severity → Nat
  | clear => 0
  | debug => 1
  | info => 2
  | warning => 3
  | error => 4
  | critical => 5

/-- How two severities compare. -/
def compare (a b : Severity) : Ordering :=
  Ord.compare a.rank b.rank

/-- The more severe of two. -/
def max (a b : Severity) : Severity :=
  if a.rank ≤ b.rank then b else a

end Severity

/-- Something that happened in a target system. -/
structure Event where
  /-- The target system that reported it. -/
  targetSystem : String
  /-- The component that it concerns, or nothing while that is unknown. -/
  component : String := ""
  eventType : String
  summary : String := ""
  severity : Severity := .info
  /-- When it happened, in seconds since the Unix epoch. -/
  timestamp : Binary64
  /-- What is known about it, by name. -/
  traits : Dict Json := .empty
  deriving DecidableEq

namespace Event

/-- The key by which events are classified downstream. -/
def classKey (e : Event) : String :=
  "openstack|" ++ e.eventType

/-- A value as text, if it is a string, a number or a switch. -/
def scalarText? : Json → Option String
  | .string s => some s
  | .number n => some (String.ofList (Json.printNumber n))
  | .bool b => some (if b then "true" else "false")
  | .null | .array _ | .object _ => none

/-- A trait as text, if the event has it and it is a string, a number or a switch. -/
def traitText (e : Event) (name : String) : Option String :=
  (e.traits.get? name).bind scalarText?

/-- Fills in the summary of an event that has none. -/
def withSummary (e : Event) (summary : String) : Event :=
  if e.summary = "" then { e with summary } else e

end Event

end CloudCollector
